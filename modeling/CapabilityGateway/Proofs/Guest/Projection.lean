import CapabilityGateway.Proofs.Dictionary
import CapabilityGateway.Proofs.Json.Compact
import CapabilityGateway.Proofs.Number.Layout

/-!
# The JSON text of a value

A value stands for the JSON value that is left when everything without a JSON form is taken out of
it. Its text on the console is a compact JSON text, and reading that text gives just this.

* `Value.Made`: the values that can be made, whose objects have distinct keys.
* `Value.projection?`: the JSON value that a value stands for.
* `Value.stringify_faithful`: the text of a value stands for its projection.
-/

namespace CapabilityGateway

namespace Value

open Json (Datum)

/-- The values that can be made. An object is made from any properties, and keeps the last value
given for a key. -/
inductive Made : Value → Prop
  | undefined : Made .undefined
  | null : Made .null
  | bool (b : Bool) : Made (.bool b)
  | number (n : Binary64) : Made (.number n)
  | string (s : String) : Made (.string s)
  | array {i : Identity} {vs : List Value} (elements : ∀ v ∈ vs, Made v) : Made (.array i vs)
  | object {i : Identity} {ps : List (String × Value)} (properties : ∀ p ∈ ps, Made p.2) :
      Made (.objectOf i ps)
  | function (f : Callable) : Made (.function f)

/-! ## Projection -/

/-- A finite number is its numeral, any other is null. -/
def numberDatum (n : Binary64) : Datum :=
  if h : n.isFinite = true then .number ⟨n.jsonText, Binary64.isNumber_jsonText h⟩ else .null

mutual

/-- The JSON value that a value stands for, if it has a JSON form. -/
def projection? : Value → Option Datum
  | .undefined => none
  | .null => some .null
  | .bool b => some (.bool b)
  | .number n => some (numberDatum n)
  | .string s => some (.string s)
  | .array _ vs => some (.array (elementProjections vs))
  | .object _ ps => some (.object (memberProjections ps))
  | .function _ => none

/-- Elements without a JSON form become null. -/
def elementProjections : List Value → List Datum
  | [] => []
  | v :: vs => (projection? v).getD .null :: elementProjections vs

/-- Properties without a JSON form are left out. -/
def memberProjections : List (String × Value) → List (String × Datum)
  | [] => []
  | (key, v) :: ps =>
    match projection? v with
    | some d => (key, d) :: memberProjections ps
    | none => memberProjections ps

end

theorem elementProjections_eq (vs : List Value) :
    elementProjections vs = vs.map fun v => (projection? v).getD .null := by
  induction vs with
  | nil => rfl
  | cons v vs ih => rw [elementProjections, ih, List.map_cons]

theorem memberProjections_eq (ps : List (String × Value)) :
    memberProjections ps = ps.filterMap fun p => (projection? p.2).map (p.1, ·) := by
  induction ps with
  | nil => rfl
  | cons p ps ih =>
    rw [memberProjections, ih, List.filterMap_cons]
    cases projection? p.2 <;> rfl

/-! ## Text -/

theorem text_numberDatum (n : Binary64) : (numberDatum n).text = n.jsonText := by
  rw [numberDatum]
  split
  next => rfl
  next h => simp [Datum.text, Binary64.jsonText, h]

mutual

theorem json?_eq : ∀ v : Value, json? v = (projection? v).map Datum.text
  | .undefined => rfl
  | .null => rfl
  | .bool _ => rfl
  | .number n => by rw [json?, projection?, Option.map_some, text_numberDatum]
  | .string _ => rfl
  | .array _ vs => by rw [json?, projection?, Option.map_some, Datum.text, jsonElements_eq]
  | .object _ ps => by rw [json?, projection?, Option.map_some, Datum.text, jsonMembers_eq]
  | .function _ => rfl

theorem jsonElements_eq : ∀ vs : List Value,
    jsonElements vs = Datum.texts (elementProjections vs)
  | [] => rfl
  | v :: vs => by
    rw [jsonElements, elementProjections, Datum.texts, json?_eq v, jsonElements_eq vs]
    cases projection? v <;> rfl

theorem jsonMembers_eq : ∀ ps : List (String × Value),
    jsonMembers ps = Datum.memberTexts (memberProjections ps)
  | [] => rfl
  | (key, v) :: ps => by
    rw [jsonMembers, memberProjections, json?_eq v, jsonMembers_eq ps]
    cases projection? v <;> rfl

end

/-- On its own, a value with a JSON form is written as its projection. -/
theorem stringifyChars_eq {v : Value} {d : Datum} (hd : projection? v = some d)
    (hfinite : ∀ n, v = .number n → n.isFinite = true) : v.stringifyChars = d.text := by
  have hjson : json? v = some d.text := by rw [json?_eq, hd, Option.map_some]
  rw [stringifyChars.eq_def]
  cases v with
  | number n =>
    rw [json?] at hjson
    simp only [hfinite n rfl, if_true]
    exact Option.some.inj hjson
  | function f => cases hd
  | undefined => cases hd
  | _ => simp only [hjson, Option.getD_some]

/-! ## Objects -/

theorem namesDistinct_numberDatum (n : Binary64) : (numberDatum n).NamesDistinct := by
  rw [numberDatum]
  split
  · exact .number _
  · exact .null

theorem names_memberProjections (ps : List (String × Value)) :
    ((memberProjections ps).map Prod.fst).Sublist (Dictionary.names ps) := by
  induction ps with
  | nil => exact List.Sublist.slnil
  | cons p ps ih =>
    rw [memberProjections, Dictionary.names, List.map_cons]
    split
    · exact ih.cons_cons p.1
    · exact ih.cons p.1

/-- The projection of a value that can be made has no repeated names. -/
theorem Made.namesDistinct {v : Value} (hv : v.Made) :
    ∀ d, projection? v = some d → d.NamesDistinct := by
  induction hv with
  | undefined => intro d hd; cases hd
  | null => intro d hd; cases hd; exact .null
  | bool b => intro d hd; cases hd; exact .bool b
  | number n => intro d hd; cases hd; exact namesDistinct_numberDatum n
  | string s => intro d hd; cases hd; exact .string s
  | @array i vs _ ih =>
    intro d hd
    cases hd
    refine .array ?_
    rw [elementProjections_eq]
    intro d hd
    obtain ⟨v, hv, rfl⟩ := List.mem_map.mp hd
    cases hd : projection? v with
    | none => exact .null
    | some d => exact ih v hv d hd
  | @object i ps _ ih =>
    intro d hd
    cases hd
    refine .object ((Dictionary.nodup_ofList ps).sublist (names_memberProjections _)) ?_
    rw [memberProjections_eq]
    intro m hm
    obtain ⟨p, hp, hm⟩ := List.mem_filterMap.mp hm
    obtain ⟨d, hd, rfl⟩ := Option.map_eq_some_iff.mp hm
    exact ih p (Dictionary.mem_of_mem_ofList hp) d hd
  | function f => intro d hd; cases hd

theorem projection?_isSome {v : Value} (hundefined : v ≠ .undefined)
    (hfunction : ∀ f, v ≠ .function f) : ∃ d, projection? v = some d := by
  cases v with
  | undefined => exact absurd rfl hundefined
  | function f => exact absurd rfl (hfunction f)
  | _ => exact ⟨_, rfl⟩

/-- The text of a value that has a JSON form, and is not a number that is not finite, is a compact
JSON text with distinct names that stands for the projection of the value. -/
theorem stringify_faithful {v : Value} (hmade : v.Made) (hundefined : v ≠ .undefined)
    (hfunction : ∀ f, v ≠ .function f) (hfinite : ∀ n, v = .number n → n.isFinite = true) :
    ∃ d, v.projection? = some d ∧ Json.read? v.stringify.toList = some d ∧ d.NamesDistinct ∧
      (∀ c ∈ v.stringify.toList, 0x20 ≤ c.toNat) ∧
      ∀ c ∈ Json.unquoted .outside v.stringify.toList, Text.isBlank c = false := by
  obtain ⟨d, hd⟩ := projection?_isSome hundefined hfunction
  have htext : v.stringify.toList = d.text := by
    rw [stringify, String.toList_ofList, stringifyChars_eq hd hfinite]
  have hcompact := d.compact_text
  rw [htext]
  exact ⟨d, hd, d.read?_text, hmade.namesDistinct d hd, hcompact.noControl, hcompact.noBlank⟩

/-- An object with a repeated key, a key to be escaped, and values without a JSON form. -/
def motley : Value :=
  objectOf 3
    [("a", .bool true),
      ("\"\n", .array 2 [.undefined, .function (.mk 1 .nothing), .number .nan, .string "x y"]),
      ("a", .number (.ofRatio true 1 2)), ("u", .undefined)]

theorem stringify_faithful_motley :
    motley.Made ∧ motley.stringify = "\x7b\"a\":-0.5,\"\\\"\\n\":[null,null,null,\"x y\"]\x7d" ∧
    ∃ d, motley.projection? = some d ∧ Json.read? motley.stringify.toList = some d ∧
      d.NamesDistinct ∧ (∀ c ∈ motley.stringify.toList, 0x20 ≤ c.toNat) ∧
      ∀ c ∈ Json.unquoted .outside motley.stringify.toList, Text.isBlank c = false := by
  have hmade : motley.Made := by
    refine .object (List.forall_mem_cons.mpr ⟨.bool true, List.forall_mem_cons.mpr ⟨.array ?_,
      List.forall_mem_cons.mpr ⟨.number _, List.forall_mem_cons.mpr ⟨.undefined, by simp⟩⟩⟩⟩)
    exact List.forall_mem_cons.mpr ⟨.undefined, List.forall_mem_cons.mpr ⟨.function _,
      List.forall_mem_cons.mpr ⟨.number _, List.forall_mem_cons.mpr ⟨.string _, by simp⟩⟩⟩⟩
  have hundefined : motley ≠ .undefined := by intro h; cases h
  have hfunction : ∀ f, motley ≠ .function f := by intro f h; cases h
  have hfinite : ∀ n, motley = .number n → n.isFinite = true := by intro n h; cases h
  exact ⟨hmade, by decide +kernel, stringify_faithful hmade hundefined hfunction hfinite⟩

end Value

end CapabilityGateway
