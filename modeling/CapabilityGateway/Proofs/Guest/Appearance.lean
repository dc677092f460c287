import CapabilityGateway.Proofs.Guest.Equality
import CapabilityGateway.Proofs.Guest.Framing
import CapabilityGateway.Proofs.Guest.NumberText
import CapabilityGateway.Proofs.Namespace.Lookup

/-!
# Equal values look equal

Of the values in one heap, equal ones have the same text on the console. The one thing that equality
leaves open there is the sign of zero, and the console does not show it. Values that are the same
agree in all that can be learned from them: in every text, in their kind, in their members and in
what they are the same as. Two NaNs can differ in their bits, and no text shows those.

A fixed name can only be redefined as what it is already. The property is then written anew with a
value that is the same, and nobody can tell.

* `Value.stringifyChars_of_eq`, `Value.line_of_eqAll`: the text of equal values.
* `Value.LooksLike`, `Value.looksLike_of_same`: what values that are the same agree in.
* `Namespace.looksLike_define`: what the redefinition of a fixed name leaves.
* `Value.equal_values_look_equal`: all of it together.
-/

namespace CapabilityGateway

namespace Binary64

variable {x y : Binary64}

theorem isFinite_of_isZero (h : x.isZero = true) : x.isFinite = true := by
  rw [isFinite, beq_iff_eq.mp h]
  rfl

theorem isFinite_of_isNaN (h : x.isNaN = true) : x.isFinite = false := by
  simp only [isNaN, isFinite, decide_eq_true_eq, decide_eq_false_iff_not] at h ⊢
  omega

theorem jsonText_of_eq (h : x.eq y = true) : x.jsonText = y.jsonText := by
  obtain ⟨-, -, rfl | ⟨hx, hy⟩⟩ := eq_iff.mp h
  · rfl
  · rw [jsonText_of_isZero (isFinite_of_isZero hx) hx,
      jsonText_of_isZero (isFinite_of_isZero hy) hy]

theorem displayText_of_isNaN (h : x.isNaN = true) : x.displayText = ['N', 'a', 'N'] := by
  simp [displayText, isWhole, isFinite_of_isNaN h, plainText, h]

theorem plainText_of_isNaN (h : x.isNaN = true) : x.plainText = ['N', 'a', 'N'] := by
  simp [plainText, h]

end Binary64

namespace Value

variable {heap : Heap}

/-! ## Equal values -/

mutual

theorem json?_of_eq : ∀ {u v : Value}, u.StoredIn heap → v.StoredIn heap → u.eq v = true →
    json? u = json? v
  | .undefined, v, _, _, h => by rw [undefined_eq_iff.mp h]
  | .null, v, _, _, h => by rw [null_eq_iff.mp h]
  | .bool a, v, _, _, h => by rw [bool_eq_iff.mp h]
  | .number m, v, _, _, h => by
    obtain ⟨n, rfl, hmn⟩ := number_eq_iff.mp h
    rw [json?, json?, Binary64.jsonText_of_eq hmn]
  | .string s, v, _, _, h => by rw [string_eq_iff.mp h]
  | .array i xs, v, hu, hv, h => by
    obtain ⟨j, ys, rfl, hxy⟩ := array_eq_iff.mp h
    rw [json?, json?, jsonElements_of_eqAll hu.of_mem hv.of_mem hxy]
  | .object i ps, v, hu, hv, h => by
    obtain ⟨qs, rfl⟩ := object_eq_iff.mp h
    rw [hu.properties_eq, hv.properties_eq]
  | .function f, v, _, _, h => by
    obtain ⟨g, rfl, -⟩ := function_eq_iff.mp h
    rfl

theorem jsonElements_of_eqAll : ∀ {xs ys : List Value}, (∀ x ∈ xs, x.StoredIn heap) →
    (∀ y ∈ ys, y.StoredIn heap) → eqAll xs ys = true → jsonElements xs = jsonElements ys
  | [], ys, _, _, h => by rw [eqAll_nil_iff.mp h]
  | x :: xs, _, hxs, hys, h => by
    obtain ⟨y, ys, rfl, hxy, hrest⟩ := eqAll_cons_iff.mp h
    obtain ⟨hx, hxs⟩ := List.forall_mem_cons.mp hxs
    obtain ⟨hy, hys⟩ := List.forall_mem_cons.mp hys
    rw [jsonElements, jsonElements, json?_of_eq hx hy hxy, jsonElements_of_eqAll hxs hys hrest]

end

theorem stringifyChars_of_eq {u v : Value} (hu : u.StoredIn heap) (hv : v.StoredIn heap)
    (h : u.eq v = true) : u.stringifyChars = v.stringifyChars := by
  have hjson : json? u = json? v := json?_of_eq hu hv h
  cases u with
  | number m =>
    obtain ⟨n, rfl, hmn⟩ := number_eq_iff.mp h
    obtain ⟨-, -, rfl | ⟨hm, hn⟩⟩ := Binary64.eq_iff.mp hmn
    · rfl
    · rw [stringifyChars_number, stringifyChars_number, Binary64.isFinite_of_isZero hm,
        Binary64.isFinite_of_isZero hn, Binary64.jsonText_of_eq hmn, if_pos rfl, if_pos rfl]
  | function f =>
    obtain ⟨g, rfl, -⟩ := function_eq_iff.mp h
    rfl
  | array i xs =>
    obtain ⟨j, ys, rfl, -⟩ := array_eq_iff.mp h
    exact congrArg (Option.getD · "undefined".toList) hjson
  | object i ps =>
    obtain ⟨qs, rfl⟩ := object_eq_iff.mp h
    exact congrArg (Option.getD · "undefined".toList) hjson
  | undefined => rw [undefined_eq_iff.mp h]
  | null => rw [null_eq_iff.mp h]
  | bool a => rw [bool_eq_iff.mp h]
  | string s => rw [string_eq_iff.mp h]

theorem lineChars_of_eq {u v : Value} (hu : u.StoredIn heap) (hv : v.StoredIn heap)
    (h : u.eq v = true) : u.lineChars = v.lineChars := by
  have htext := stringifyChars_of_eq hu hv h
  cases u with
  | string s => rw [string_eq_iff.mp h]
  | _ =>
    cases v with
    | string t => simp [eq] at h
    | _ => exact htext

theorem line_of_eqAll {xs ys : List Value} (hxs : ∀ x ∈ xs, x.StoredIn heap)
    (hys : ∀ y ∈ ys, y.StoredIn heap) (h : eqAll xs ys = true) : line xs = line ys := by
  have htexts : xs.map lineChars = ys.map lineChars := by
    induction xs generalizing ys with
    | nil => rw [eqAll_nil_iff.mp h]
    | cons x xs ih =>
      obtain ⟨y, ys, rfl, hxy, hrest⟩ := eqAll_cons_iff.mp h
      obtain ⟨hx, hxs⟩ := List.forall_mem_cons.mp hxs
      obtain ⟨hy, hys⟩ := List.forall_mem_cons.mp hys
      rw [List.map_cons, List.map_cons, lineChars_of_eq hx hy hxy, ih hxs hys hrest]
  rw [line, line, htexts]

/-! ## Values that are the same -/

/-- The values agree in all their texts, in their kind, in their members up to sameness, and in what
they are the same as or equal to. -/
structure LooksLike (u v : Value) : Prop where
  typeName : u.typeName = v.typeName
  text? : u.text? = v.text?
  display : u.display = v.display
  inspect : u.inspect = v.inspect
  stringify : u.stringify = v.stringify
  member? : ∀ key, Option.Rel (fun a b => a.same b = true) (u.member? key) (v.member? key)
  same : ∀ x : Value, u.same x = v.same x
  eq : ∀ x : Value, u.eq x = v.eq x

theorem LooksLike.refl (v : Value) : v.LooksLike v where
  typeName := rfl
  text? := rfl
  display := rfl
  inspect := rfl
  stringify := rfl
  member? key := by
    cases v.member? key with
    | none => exact .none
    | some a => exact .some a.same_refl
  same _ := rfl
  eq _ := rfl

theorem stringifyChars_of_isNaN {n : Binary64} (h : n.isNaN = true) :
    (number n).stringifyChars = "NaN".toList := by
  rw [stringifyChars_number, Binary64.isFinite_of_isNaN h, Binary64.nonFiniteName, h]
  rfl

theorem same_congr {u v : Value} (h : u.same v = true) (x : Value) : u.same x = v.same x :=
  Bool.eq_iff_iff.mpr ⟨same_trans (same_symm h), same_trans h⟩

theorem eq_congr {u v : Value} (h : u.eq v = true) (x : Value) : u.eq x = v.eq x :=
  Bool.eq_iff_iff.mpr ⟨eq_trans (eq_symm h), eq_trans h⟩

/-- Values of one heap that are the same look alike. Only two NaNs and two callables of one identity
need a word, since all others are one and the same value. -/
theorem looksLike_of_same {u v : Value} (hu : u.StoredIn heap) (hv : v.StoredIn heap)
    (h : u.same v = true) : u.LooksLike v := by
  have hsame := same_congr h
  rcases same_cases hu hv h with rfl | ⟨m, n, rfl, rfl, hm, hn⟩ | ⟨f, g, rfl, rfl, hfg⟩
  · exact .refl u
  · constructor
    case typeName => rfl
    case text? => rfl
    case display =>
      rw [display, display, Binary64.displayText_of_isNaN hm, Binary64.displayText_of_isNaN hn]
    case inspect =>
      rw [inspect, inspect, Binary64.plainText_of_isNaN hm, Binary64.plainText_of_isNaN hn]
    case stringify =>
      rw [stringify, stringify, stringifyChars_of_isNaN hm, stringifyChars_of_isNaN hn]
    case member? => exact fun _ => .none
    case same => exact hsame
    case eq => exact fun x => by rw [eq_of_isNaN hm, eq_of_isNaN hn]
  · have heq : (function f).eq (.function g) = true := function_eq_iff.mpr ⟨g, rfl, hfg⟩
    exact ⟨rfl, rfl, rfl, rfl, rfl, fun _ => .none, hsame, eq_congr heq⟩

end Value

/-- Equal attributes, and values that look alike. -/
structure Property.LooksLike (p q : Property) : Prop where
  attributes : p.attributes = q.attributes
  value : p.value.LooksLike q.value

namespace Property.LooksLike

theorem refl (p : Property) : p.LooksLike p := ⟨rfl, .refl p.value⟩

theorem identical_eq {p q : Property} (h : p.LooksLike q) (r : Property) :
    p.identical r = q.identical r := by
  rw [identical, identical, h.attributes, h.value.same]

theorem inspect_eq {p q : Property} (h : p.LooksLike q) : p.inspect = q.inspect := by
  rw [inspect, inspect, h.attributes, h.value.inspect]

end Property.LooksLike

namespace Namespace

/-! ## Namespaces -/

/-- The names stand in the same order, and are bound to properties that look alike. -/
structure LooksLike (g h : Namespace) : Prop where
  names : g.names = h.names
  properties : ∀ name, Option.Rel Property.LooksLike (g.property? name) (h.property? name)

variable {g h : Namespace}

/-- The entries are what is found under the names. -/
theorem map_entries {β : Type} (f : String × Property → β) (g : Namespace) :
    g.entries.map f =
      g.names.filterMap fun name => (g.property? name).map fun p => f (name, p) := by
  rw [names, Dictionary.names, List.filterMap_map, ← List.filterMap_eq_map]
  refine List.filterMap_congr fun e he => ?_
  have hfound : g.property? e.1 = some e.2 := Dictionary.get?_of_mem g.nodup he
  simp [hfound]

theorem LooksLike.inspect_eq (hgh : g.LooksLike h) : g.inspect = h.inspect := by
  have htexts :
      (g.entries.map fun e => "(" ++ Text.quoted e.1 ++ ", " ++ e.2.inspect ++ ")") =
        h.entries.map fun e => "(" ++ Text.quoted e.1 ++ ", " ++ e.2.inspect ++ ")" := by
    rw [map_entries, map_entries, hgh.names]
    refine List.filterMap_congr fun name _ => ?_
    have hfound := hgh.properties name
    generalize g.property? name = p, h.property? name = q at hfound
    cases hfound with
    | none => rfl
    | some hpq => simp [hpq.inspect_eq]
  rw [inspect, inspect, htexts]

/-- The same definitions are allowed. -/
theorem LooksLike.mayDefine_eq (hgh : g.LooksLike h) (name : String) (r : Property) :
    g.mayDefine name r = h.mayDefine name r := by
  unfold mayDefine
  have hfound := hgh.properties name
  generalize g.property? name = p, h.property? name = q at hfound
  cases hfound with
  | none => rfl
  | some hpq => simp only [hpq.attributes, hpq.identical_eq]

/-- A fixed name is bound anew to what looks like the property that it was bound to. -/
theorem looksLike_define {heap : Heap} {name : String} {p q : Property}
    (hp : g.property? name = some p) (hfixed : p.attributes.configurable = false)
    (hdefine : g.define name q = .ok h) (hpstored : p.value.StoredIn heap)
    (hqstored : q.value.StoredIn heap) : h = g.write name q ∧ g.LooksLike h := by
  rcases define_cases g name q with ⟨hmay, hok⟩ | herror
  · cases hdefine.symm.trans hok
    have hidentical : p.identical q = true := by
      rcases mayDefine_iff.mp hmay p hp with hconfigurable | hidentical
      · rw [hfixed] at hconfigurable
        cases hconfigurable
      · exact hidentical
    obtain ⟨hattributes, hsame⟩ := Property.identical_iff.mp hidentical
    have hpq : p.LooksLike q := ⟨hattributes, Value.looksLike_of_same hpstored hqstored hsame⟩
    have hmem : name ∈ g.names := Dictionary.mem_names_of_get? hp
    refine ⟨rfl, (names_write_of_mem hmem q).symm, fun other => ?_⟩
    rw [property?_write]
    split
    next hother =>
      rw [hother, hp]
      exact .some hpq
    next =>
      cases g.property? other with
      | none => exact .none
      | some r => exact .some (.refl r)
  · rw [hdefine] at herror
    cases herror

end Namespace

namespace Value

/-- Values of one heap that are equal have the same text on the console, and lists of arguments
that are equal element by element have the same line. Values that are the same look alike. So when
a fixed name is redefined, the namespace is written to and still looks like the one before, to those
who show it and to those who compare. -/
theorem equal_values_look_equal (heap : Heap) :
    (∀ u v : Value, u.StoredIn heap → v.StoredIn heap →
      (u.eq v = true → u.stringify = v.stringify) ∧ (u.same v = true → u.LooksLike v)) ∧
    (∀ us vs : List Value, (∀ u ∈ us, u.StoredIn heap) → (∀ v ∈ vs, v.StoredIn heap) →
      eqAll us vs = true → line us = line vs) ∧
    ∀ (g h : Namespace) (name : String) (p q : Property),
      p.value.StoredIn heap → q.value.StoredIn heap → g.property? name = some p →
      p.attributes.configurable = false → g.define name q = .ok h →
      h = g.write name q ∧ g.LooksLike h ∧ g.inspect = h.inspect ∧
        ∀ other r, g.mayDefine other r = h.mayDefine other r := by
  refine ⟨fun u v hu hv => ⟨fun heq => ?_, looksLike_of_same hu hv⟩, fun us vs => line_of_eqAll,
    fun g h name p q hpstored hqstored hp hfixed hdefine => ?_⟩
  · exact congrArg String.ofList (stringifyChars_of_eq hu hv heq)
  · obtain ⟨hwrite, hlooks⟩ := Namespace.looksLike_define hp hfixed hdefine hpstored hqstored
    exact ⟨hwrite, hlooks, hlooks.inspect_eq, hlooks.mayDefine_eq⟩

/-- Two arrays with zeros of both signs and an object that holds NaN, and a name that is fixed to
NaN and redefined as a NaN with other bits. -/
theorem equal_values_look_equal_redefined :
    let box := Value.object 2 [("x", .number .nan)]
    let a := Value.array 1 [.number (.ofMagnitude false 0), box]
    let b := Value.array 3 [.number (.ofMagnitude true 0), box]
    let loud := Value.number (.ofMagnitude true (Binary64.infinityMagnitude + 1))
    let g := Namespace.empty.write "nan" (.fixedHidden (.number .nan))
    let h := g.write "nan" (.fixedHidden loud)
    a.stringify = b.stringify ∧ line [.string "-0", a] = line [.string "-0", b] ∧
      g.define "nan" (.fixedHidden loud) = .ok h ∧ g.inspect = h.inspect ∧
      h.mayDefine "nan" (.fixedHidden (.number .nan)) = true := by
  intro box a b loud g h
  let heap : Heap :=
    ⟨fun i => if i = 1 then [.number (.ofMagnitude false 0), box]
      else [.number (.ofMagnitude true 0), box], fun _ => [("x", .number .nan)]⟩
  have hbox : box.StoredIn heap := .object rfl (List.forall_mem_singleton.mpr (.number _))
  have ha : a.StoredIn heap :=
    .array rfl (List.forall_mem_cons.mpr ⟨.number _, List.forall_mem_singleton.mpr hbox⟩)
  have hb : b.StoredIn heap :=
    .array rfl (List.forall_mem_cons.mpr ⟨.number _, List.forall_mem_singleton.mpr hbox⟩)
  have hdefine : g.define "nan" (.fixedHidden loud) = .ok h :=
    Namespace.define_of_mayDefine (by decide)
  obtain ⟨hvalues, hlines, hnames⟩ := equal_values_look_equal heap
  obtain ⟨-, -, hinspect, hmay⟩ :=
    hnames g h "nan" _ _ (.number _) (.number _) rfl rfl hdefine
  refine ⟨(hvalues a b ha hb).1 (by decide), hlines _ _ ?_ ?_ (by decide), hdefine, hinspect,
    (hmay _ _).symm.trans (by decide)⟩
  · exact List.forall_mem_cons.mpr ⟨.string _, List.forall_mem_singleton.mpr ha⟩
  · exact List.forall_mem_cons.mpr ⟨.string _, List.forall_mem_singleton.mpr hb⟩

end Value

end CapabilityGateway
