import CapabilityGateway.Proofs.Dictionary
import CapabilityGateway.Toml.Grammar

/-!
# The keys of a document

In a TOML document no table has a key twice, however the table came to be: by headers, by dotted
keys, by braces, or as one of several under a header in double brackets. Everything that is written
into an unfinished table goes through `Dictionary.put`, which keeps the keys distinct, and the
values on the right of an equals sign are built in the same way before.

* `Reader.Yields`: what all results of a reader have in common.
* `Value.Keyed`: no table within the value has a key twice.
* `keyed_of_parse?`: the tables of a document are such.
-/

namespace CapabilityGateway

namespace Toml

/-! ## What readers yield -/

namespace Reader

variable {α β : Type} {P : α → Prop} {Q : β → Prop}

/-- Whatever the reader reads is of the kind. -/
def Yields (P : α → Prop) (p : Reader α) : Prop := ∀ s a rest, p s = some (a, rest) → P a

namespace Yields

variable {p q : Reader α}

theorem of_forall (h : ∀ a, P a) (p : Reader α) : p.Yields P := fun _ a _ _ => h a

theorem pure {a : α} (h : P a) : (Pure.pure a : Reader α).Yields P := by
  rintro s _ _ ⟨⟩
  exact h

theorem fail : (Reader.fail : Reader α).Yields P := by
  rintro s _ _ ⟨⟩

/-- What the second reader makes of what the first one yields. -/
theorem bind (hp : p.Yields P) {f : α → Reader β} (hf : ∀ a, P a → (f a).Yields Q) :
    (p >>= f).Yields Q := by
  intro s b rest h
  obtain ⟨⟨a, rest'⟩, ha, hb⟩ := Option.bind_eq_some_iff.mp h
  exact hf a (hp s a rest' ha) rest' b rest hb

/-- What the first reader yields does not matter. -/
theorem after {f : α → Reader β} (hf : ∀ a, (f a).Yields Q) : (p >>= f).Yields Q :=
  bind (P := fun _ => True) (of_forall (fun _ => trivial) p) fun a _ => hf a

theorem map (hp : p.Yields P) {f : α → β} (hf : ∀ a, P a → Q (f a)) : (f <$> p).Yields Q := by
  intro s b rest h
  obtain ⟨⟨a, rest'⟩, ha, hb⟩ := Option.bind_eq_some_iff.mp h
  cases hb
  exact hf a (hp s a _ ha)

theorem either (hp : p.Yields P) (hq : q.Yields P) : (Reader.either p q).Yields P := by
  intro s a rest h
  rw [Reader.either] at h
  split at h
  next r hr =>
    cases h
    exact hp s a rest hr
  next => exact hq s a rest h

theorem maybe (hp : p.Yields P) : (Reader.maybe p).Yields fun o => ∀ a ∈ o, P a := by
  refine either (hp.map fun a ha => ?_) (.pure ?_)
  · rintro _ ⟨⟩
    exact ha
  · rintro _ ⟨⟩

theorem upTo (hp : p.Yields P) (n : Nat) : (Reader.upTo p n).Yields fun as => ∀ a ∈ as, P a := by
  induction n with
  | zero => exact .pure (by simp)
  | succ n ih =>
    intro s as rest h
    simp only [Reader.upTo] at h
    split at h
    next a s' ha =>
      split at h
      next as' rest' has =>
        cases h
        exact List.forall_mem_cons.mpr ⟨hp s a s' ha, ih s' as' rest has⟩
      next => cases h
    next =>
      cases h
      simp

theorem many (hp : p.Yields P) : (Reader.many p).Yields fun as => ∀ a ∈ as, P a :=
  fun s as rest h => upTo hp s.length s as rest h

theorem separatedBy (hp : p.Yields P) (separator : Reader β) :
    (Reader.separatedBy p separator).Yields fun as => ∀ a ∈ as, P a :=
  bind hp fun _ ha => bind (many (after fun _ => hp)) fun _ has =>
    .pure (List.forall_mem_cons.mpr ⟨ha, has⟩)

end Yields

end Reader

/-! ## Tables without repeated keys -/

/-- The value holds no other values. -/
def Value.isScalar : Value → Bool
  | .array _ | .table _ => false
  | _ => true

/-- No table within the value, and it is none itself, has a key twice. -/
inductive Value.Keyed : Value → Prop where
  | scalar {v : Value} (h : v.isScalar = true) : Keyed v
  | array {vs : List Value} (h : ∀ v ∈ vs, Keyed v) : Keyed (.array vs)
  | table {es : List (String × Value)} (nodup : (Dictionary.names es).Nodup)
      (h : ∀ e ∈ es, Keyed e.2) : Keyed (.table es)

/-- No table within the part of a document has a key twice. -/
inductive Tree.Keyed : Tree → Prop where
  | closed {v : Value} (h : v.Keyed) : Keyed (.closed v)
  | table {origin : Origin} {es : List (String × Tree)} (nodup : (Dictionary.names es).Nodup)
      (h : ∀ e ∈ es, Keyed e.2) : Keyed (.table origin es)
  | tables {elements : List (List (String × Tree))}
      (nodup : ∀ es ∈ elements, (Dictionary.names es).Nodup)
      (h : ∀ es ∈ elements, ∀ e ∈ es, Keyed e.2) : Keyed (.tables elements)

namespace Tree

/-- No unfinished table among the entries, or made of them, has a key twice. -/
structure AllKeyed (es : Entries) : Prop where
  nodup : (Dictionary.names es).Nodup
  entries : ∀ e ∈ es, e.2.Keyed

namespace AllKeyed

variable {es : Entries}

theorem nil : AllKeyed [] := ⟨List.nodup_nil, by simp⟩

theorem of_table {origin : Origin} (h : (Tree.table origin es).Keyed) : AllKeyed es := by
  cases h with
  | table nodup h => exact ⟨nodup, h⟩

theorem of_tables {elements : List (List (String × Tree))} (h : (Tree.tables elements).Keyed) :
    ∀ es ∈ elements, AllKeyed es := by
  cases h with
  | tables nodup h => exact fun es hes => ⟨nodup es hes, h es hes⟩

theorem tables {elements : List (List (String × Tree))} (h : ∀ es ∈ elements, AllKeyed es) :
    (Tree.tables elements).Keyed :=
  .tables (fun es hes => (h es hes).nodup) fun es hes => (h es hes).entries

theorem put (h : AllKeyed es) (key : String) {t : Tree} (ht : t.Keyed) :
    AllKeyed (Dictionary.put key t es) := by
  refine ⟨Dictionary.nodup_put h.nodup key t, fun e he => ?_⟩
  rcases Dictionary.mem_put he with rfl | he
  · exact ht
  · exact h.entries e he

theorem erase (h : AllKeyed es) (key : String) : AllKeyed (Dictionary.erase key es) :=
  ⟨Dictionary.nodup_erase h.nodup key, fun e he => h.entries e (Dictionary.mem_of_mem_erase he)⟩

theorem get? (h : AllKeyed es) {key : String} {t : Tree} (ht : Dictionary.get? key es = some t) :
    t.Keyed :=
  h.entries _ (Dictionary.mem_of_get? ht)

end AllKeyed

theorem entryValues_eq (es : List (String × Tree)) :
    entryValues es = Dictionary.mapValues value es := by
  induction es with
  | nil => rfl
  | cons e rest ih => rw [entryValues, ih]; rfl

theorem elementValues_eq (elements : List (List (String × Tree))) :
    elementValues elements = elements.map fun es => .table (entryValues es) := by
  induction elements with
  | nil => rfl
  | cons es rest ih => rw [elementValues, ih, List.map_cons]

theorem keyed_entryValues {es : List (String × Tree)} (nodup : (Dictionary.names es).Nodup)
    (h : ∀ e ∈ es, (value e.2).Keyed) : (Value.table (entryValues es)).Keyed := by
  rw [entryValues_eq]
  refine .table (by rwa [Dictionary.names_mapValues]) fun e he => ?_
  obtain ⟨d, hd, rfl⟩ := List.mem_map.mp he
  exact h d hd

/-- Finishing a table keeps its keys. -/
theorem Keyed.value {t : Tree} (h : t.Keyed) : t.value.Keyed := by
  induction h with
  | closed h => exact h
  | table nodup _ ih => exact keyed_entryValues nodup ih
  | tables nodup _ ih =>
    rw [Tree.value, elementValues_eq]
    refine .array fun v hv => ?_
    obtain ⟨es, hes, rfl⟩ := List.mem_map.mp hv
    exact keyed_entryValues (nodup es hes) (ih es hes)

theorem AllKeyed.value {es : Entries} (h : AllKeyed es) : (Value.table (entryValues es)).Keyed :=
  keyed_entryValues h.nodup fun e he => (h.entries e he).value

/-! ## Changing an unfinished table -/

/-- A change keeps keys distinct where it takes place. -/
def KeepsKeyed (change : Origin → Entries → Option Entries) : Prop :=
  ∀ here es es', AllKeyed es → change here es = some es' → AllKeyed es'

/-- Then it keeps them distinct in the whole document. -/
theorem keepsKeyed_descend (origin : Origin) {change : Origin → Entries → Option Entries}
    (hchange : KeepsKeyed change) (path : List String) :
    KeepsKeyed (descend origin change path) := by
  induction path with
  | nil => exact hchange
  | cons key path ih =>
    intro here es es' hes h
    rw [descend] at h
    split at h
    next =>
      obtain ⟨inner, hinner, hput⟩ := Option.bind_eq_some_iff.mp h
      cases hput
      have hkeyed := ih origin [] inner .nil hinner
      exact hes.put key (.table hkeyed.nodup hkeyed.entries)
    next there inner hget =>
      split at h
      · cases h
      · obtain ⟨inner', hinner, hput⟩ := Option.bind_eq_some_iff.mp h
        cases hput
        have hkeyed := ih there inner inner' (.of_table (hes.get? hget)) hinner
        exact hes.put key (.table hkeyed.nodup hkeyed.entries)
    next elements hget =>
      obtain ⟨last, hlast, h⟩ := Option.bind_eq_some_iff.mp h
      obtain ⟨last', hdescend, hput⟩ := Option.bind_eq_some_iff.mp h
      cases hput
      have helements := AllKeyed.of_tables (hes.get? hget)
      have hkeyed := ih .header last last' (helements last (List.mem_of_getLast? hlast)) hdescend
      refine hes.put key (AllKeyed.tables fun es hmem => ?_)
      rcases List.mem_append.mp hmem with hmem | hmem
      · exact helements es ((List.dropLast_sublist elements).mem hmem)
      · rwa [List.mem_singleton.mp hmem]
    next => cases h

theorem keepsKeyed_assign (path : List String) (key : String) {v : Value} (hv : v.Keyed) :
    KeepsKeyed (assign path key v) := by
  refine keepsKeyed_descend .dotted (fun here es es' hes h => ?_) path
  split at h
  · cases h
  · split at h
    · cases h
    · cases h
      exact hes.put key (.closed hv)

theorem keepsKeyed_openTable (path : List String) (key : String) :
    KeepsKeyed fun _ => openTable path key := by
  intro here es es' hes h
  refine keepsKeyed_descend .passed (fun here es es' hes h => ?_) path .header es es' hes h
  split at h
  next =>
    cases h
    exact hes.put key (.table List.nodup_nil (by simp))
  next inner hget =>
    cases h
    have hkeyed := AllKeyed.of_table (hes.get? hget)
    exact (hes.erase key).put key (.table hkeyed.nodup hkeyed.entries)
  next => cases h

theorem keepsKeyed_openElement (path : List String) (key : String) :
    KeepsKeyed fun _ => openElement path key := by
  intro here es es' hes h
  refine keepsKeyed_descend .passed (fun here es es' hes h => ?_) path .header es es' hes h
  split at h
  next =>
    cases h
    exact hes.put key (.tables (by simp) (by simp))
  next elements hget =>
    cases h
    refine hes.put key (AllKeyed.tables fun es hmem => ?_)
    rcases List.mem_append.mp hmem with hmem | hmem
    · exact AllKeyed.of_tables (hes.get? hget) es hmem
    · rw [List.mem_singleton.mp hmem]
      exact .nil
  next => cases h

end Tree

/-! ## Values -/

/-- What every step of a fold keeps, the whole fold keeps. -/
theorem foldlM_keeps {σ ι : Type} {I : σ → Prop} {f : σ → ι → Option σ} {as : List ι}
    (hf : ∀ s, I s → ∀ a ∈ as, ∀ s', f s a = some s' → I s') {s s' : σ} (hs : I s)
    (h : as.foldlM f s = some s') : I s' := by
  induction as generalizing s with
  | nil =>
    cases h
    exact hs
  | cons a as ih =>
    rw [List.foldlM_cons] at h
    obtain ⟨s₁, hs₁, h⟩ := Option.bind_eq_some_iff.mp h
    have hrest : ∀ s, I s → ∀ a ∈ as, ∀ s', f s a = some s' → I s' :=
      fun s hs b hb => hf s hs b (List.mem_cons_of_mem a hb)
    exact ih hrest (hf s hs a List.mem_cons_self s₁ hs₁) h

theorem keyed_inlineTableOf? {assignments : List (DottedKey × Value)} {v : Value}
    (hassignments : ∀ a ∈ assignments, a.2.Keyed) (h : inlineTableOf? assignments = some v) :
    v.Keyed := by
  obtain ⟨es, hes, hv⟩ := Option.bind_eq_some_iff.mp h
  cases hv
  have hkeyed : Tree.AllKeyed es := by
    refine foldlM_keeps (I := Tree.AllKeyed) (fun es hes a ha es' hassign => ?_) .nil hes
    exact Tree.keepsKeyed_assign _ _ (hassignments a ha) .header es es' hes hassign
  exact hkeyed.value

namespace Reader.Yields

theorem bounded (n : Int) : (Toml.bounded n).Yields (·.isScalar) := by
  unfold Toml.bounded
  split
  · exact .pure rfl
  · exact .fail

theorem integer : Toml.integer.Yields (·.isScalar) := by
  have hbased : ∀ mark base p, (basedInteger mark base p).Yields (·.isScalar) :=
    fun _ _ _ => after fun _ => after fun _ => bounded _
  exact either (hbased _ _ _) (either (hbased _ _ _) (either (hbased _ _ _)
    (after fun _ => after fun _ => bounded _)))

theorem decimalFloat : Toml.decimalFloat.Yields (·.isScalar) := by
  refine after fun s => after fun whole => after fun e => ?_
  simp only
  split
  · exact .fail
  · exact .pure rfl

/-- Strings, numbers, truth values and dates hold no other values. -/
theorem scalar : Toml.scalar.Yields (·.isScalar) := by
  have hstring : (Value.string <$> Toml.string).Yields (·.isScalar) :=
    map (of_forall (P := fun _ => True) (fun _ => trivial) _) fun _ _ => rfl
  have hboolean : Toml.boolean.Yields (·.isScalar) :=
    either (after fun _ => .pure rfl) (after fun _ => .pure rfl)
  have hdatetime : Toml.datetime.Yields (·.isScalar) := after fun _ => .pure rfl
  have hnamed : Toml.namedFloat.Yields (·.isScalar) :=
    after fun _ => either (after fun _ => .pure rfl) (after fun _ => .pure rfl)
  exact either hstring (either hboolean (either hdatetime (either decimalFloat
    (either hnamed integer))))

variable {element : Reader Value}

theorem arrayOf (h : element.Yields Value.Keyed) : (Toml.arrayOf element).Yields Value.Keyed := by
  refine after fun _ => bind (maybe (separatedBy
    (after fun _ => bind h fun _ hv => after fun _ => .pure hv) _)) fun vs hvs => ?_
  cases vs with
  | none => exact after fun _ => after fun _ => after fun _ => .pure (Value.Keyed.array (by simp))
  | some vs =>
    exact after fun _ => after fun _ => after fun _ => .pure (Value.Keyed.array (hvs vs rfl))

theorem assignmentOf (h : element.Yields Value.Keyed) :
    (Toml.assignmentOf element).Yields fun a => a.2.Keyed :=
  after fun _ => after fun _ => after fun _ => bind h fun _ hv => after fun _ => .pure hv

theorem inlineTableOf (h : element.Yields Value.Keyed) :
    (Toml.inlineTableOf element).Yields Value.Keyed := by
  refine after fun _ => bind (maybe (separatedBy (assignmentOf h) _)) fun es hes => ?_
  refine after fun _ => after fun _ => ?_
  have hassignments : ∀ a ∈ es.getD [], a.2.Keyed := by
    cases es with
    | none => simp
    | some es => exact hes es rfl
  split
  next v hv => exact .pure (keyed_inlineTableOf? hassignments hv)
  next => exact .fail

theorem value (depth : Nat) : (Toml.value depth).Yields Value.Keyed := by
  have hscalar : Toml.scalar.Yields Value.Keyed := fun s v rest h => .scalar (scalar s v rest h)
  induction depth with
  | zero => exact hscalar
  | succ depth ih => exact either hscalar (either (arrayOf ih) (inlineTableOf ih))

end Reader.Yields

/-! ## Documents -/

/-- What a statement assigns, if it assigns something. -/
def Statement.value? : Statement → Option Value
  | .assignment _ v => some v
  | _ => none

/-- No table in what the statement assigns has a key twice. -/
def Statement.Keyed (s : Statement) : Prop := ∀ v ∈ s.value?, v.Keyed

theorem keyed_line : line.Yields fun o => ∀ s ∈ o, s.Keyed := by
  have hheader : header.Yields Statement.Keyed := by
    refine .after fun _ => .after fun _ => .after fun _ => .pure ?_
    rintro _ ⟨⟩
  have helement : elementHeader.Yields Statement.Keyed := by
    refine .after fun _ => .after fun _ => .after fun _ => .pure ?_
    rintro _ ⟨⟩
  have hassignment : assignment.Yields Statement.Keyed := by
    refine .bind (.assignmentOf (.value _)) fun a ha => .pure ?_
    rintro _ ⟨⟩
    exact ha
  exact .after fun _ => .bind (.maybe (.either helement (.either hheader hassignment)))
    fun s hs => .after fun _ => .after fun _ => .after fun _ => .pure hs

theorem keyed_statementsUpTo {n : Nat} {s : List Char} {statements : List Statement}
    (h : statementsUpTo n s = some statements) : ∀ a ∈ statements, a.Keyed := by
  induction n generalizing s statements with
  | zero =>
    cases s with
    | nil =>
      cases h
      simp
    | cons c s => cases h
  | succ n ih =>
    cases s with
    | nil =>
      cases h
      simp
    | cons c s =>
      simp only [statementsUpTo] at h
      split at h
      next first rest hline =>
        split at h
        next later hlater =>
          cases h
          intro a ha
          rcases List.mem_append.mp ha with ha | ha
          · exact keyed_line _ _ _ hline a (Option.mem_toList.mp ha)
          · exact ih hlater a ha
        next => cases h
      next => cases h

theorem keyed_add {d d' : Document} {s : Statement} (hd : Tree.AllKeyed d.entries) (hs : s.Keyed)
    (h : d.add s = some d') : Tree.AllKeyed d'.entries := by
  cases s with
  | header key =>
    obtain ⟨es, hes, hd'⟩ := Option.bind_eq_some_iff.mp h
    cases hd'
    exact Tree.keepsKeyed_openTable key.path key.last .header d.entries es hd hes
  | elementHeader key =>
    obtain ⟨es, hes, hd'⟩ := Option.bind_eq_some_iff.mp h
    cases hd'
    exact Tree.keepsKeyed_openElement key.path key.last .header d.entries es hd hes
  | assignment key v =>
    obtain ⟨es, hes, hd'⟩ := Option.bind_eq_some_iff.mp h
    cases hd'
    have hassign := Tree.keepsKeyed_assign key.path key.last (hs v rfl)
    exact Tree.keepsKeyed_descend .passed hassign d.current .header d.entries es hd hes

/-- No table of a document has a key twice, and neither has the document. -/
theorem keyed_of_parse? {s : String} {table : Table} (h : parse? s = some table) :
    (Value.table table).Keyed := by
  obtain ⟨statements, hstatements, h⟩ := Option.bind_eq_some_iff.mp h
  obtain ⟨d, hd, htable⟩ := Option.bind_eq_some_iff.mp h
  cases htable
  have hkeyed : Tree.AllKeyed d.entries := by
    refine foldlM_keeps (I := fun d : Document => Tree.AllKeyed d.entries)
      (fun d hd s hs d' hadd => ?_) .nil hd
    exact keyed_add hd (keyed_statementsUpTo hstatements s hs) hadd
  exact hkeyed.value

end Toml

end CapabilityGateway
