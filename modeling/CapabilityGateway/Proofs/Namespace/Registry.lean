import CapabilityGateway.Proofs.Namespace.History
import Mathlib.Data.List.Induction

/-!
# Namespaces as registries

What a namespace is, said without a list. A registry knows of every name whether it is bound, to
what, and since when: the moment at which the name last came to be bound. `Registry.perform` states
the rules for an edit in these terms, and nothing in it depends on how names are stored or searched
for.

A namespace follows its registry: it answers every edit as the registry does, and it lists its names
from the oldest to the youngest.

* `Edit.perform_eq`: an edit in terms of what its name is bound to.
* `Registry.Describes.perform`: a namespace and its registry stay together over one edit.
* `Registry.describes_after`: so they do over every history.
-/

namespace CapabilityGateway

namespace Namespace

/-- The namespace with a name bound as given, or not bound. -/
def settle (g : Namespace) (name : String) : Option Property → Namespace
  | some p => g.write name p
  | none => g.erase name

theorem property?_settle (g : Namespace) (name other : String) (bound : Option Property) :
    (g.settle name bound).property? other = if other = name then bound else g.property? other := by
  cases bound with
  | some p => exact property?_write g name other p
  | none =>
    split
    · rename_i h
      rw [h]
      exact property?_erase_self g name
    · rename_i h
      exact property?_erase_of_ne h g

/-- The other names stay in the order in which they were. -/
theorem filter_names_settle (g : Namespace) (name : String) (bound : Option Property) :
    (g.settle name bound).names.filter (· ≠ name) = g.names.filter (· ≠ name) := by
  cases bound with
  | none =>
    rw [settle, names_erase, List.filter_filter]
    simp
  | some p =>
    by_cases hname : name ∈ g.names
    · rw [settle, names_write_of_mem hname]
    · rw [settle, names_write_of_not_mem hname]
      simp

/-! ## Edits by what they meet -/

namespace Edit

/-- The fault of an edit whose name is bound to `p`. -/
def faultAt (e : Edit) (p : Property) : Option Fault :=
  match e with
  | .define name q =>
    if p.attributes.configurable = false ∧ p.identical q = false then some (.notConfigurable name)
    else none
  | .set name _ => if p.attributes.writable = false then some (.readOnlyBinding name) else none
  | .delete name => if p.attributes.configurable = false then some (.notConfigurable name) else none

/-- What the name of a successful edit is bound to afterwards. -/
def outcome (e : Edit) (bound : Option Property) : Option Property :=
  match e with
  | .define _ q => some q
  | .set _ v => some ⟨v, (bound.map (·.attributes)).getD .ordinary⟩
  | .delete _ => none

/-- The answer to a successful edit. Only a removal can find that there is nothing to do. -/
def answer (e : Edit) (bound : Option Property) : Bool :=
  match e with
  | .delete _ => bound.isSome
  | _ => true

theorem perform_eq (g : Namespace) (e : Edit) :
    e.perform g =
      match (g.property? e.name).bind e.faultAt with
      | some f => (.error f, g)
      | none =>
        (.ok (e.answer (g.property? e.name)),
          g.settle e.name (e.outcome (g.property? e.name))) := by
  cases e with
  | define name q =>
    simp only [perform, Namespace.define, Edit.name]
    cases hp : g.property? name with
    | none => simp [mayDefine, hp, answer, outcome, settle]
    | some p =>
      cases hc : p.attributes.configurable <;> cases hi : p.identical q <;>
        simp [mayDefine, hp, faultAt, answer, outcome, settle, hc, hi]
  | set name v =>
    simp only [perform, Namespace.set, Edit.name]
    cases hp : g.property? name with
    | none => rfl
    | some p =>
      cases hw : p.attributes.writable <;> simp [faultAt, answer, outcome, settle, hw]
  | delete name =>
    simp only [perform, Namespace.delete, Edit.name]
    cases hp : g.property? name with
    | none =>
      have habsent : name ∉ g.names := by
        rw [mem_names_iff, hp]
        simp
      simp [answer, outcome, settle, erase_of_not_mem habsent]
    | some p =>
      cases hc : p.attributes.configurable <;> simp [faultAt, answer, outcome, settle, hc]

end Edit

/-- The namespace after some edits from the beginning. -/
def edited (edits : List Edit) : Namespace := empty.after (edits.map .edit)

theorem edited_snoc (edits : List Edit) (e : Edit) :
    edited (edits ++ [e]) = (e.perform (edited edits)).2 := by
  simp [edited, after, Change.apply]

end Namespace

/-! ## Registries -/

/-- What is known of a name that is bound. -/
structure Registration where
  /-- The moment at which the name was created, for the last time so far. -/
  since : Nat
  property : Property

structure Registry where
  /-- How many edits there have been. -/
  now : Nat
  entry : String → Option Registration

namespace Registry

def empty : Registry := ⟨0, fun _ => none⟩

def property? (r : Registry) (name : String) : Option Property := (r.entry name).map (·.property)

def since? (r : Registry) (name : String) : Option Nat := (r.entry name).map (·.since)

/-- The registry with a name bound as given, or not bound. A name that is bound already keeps the
moment of its creation, and a new one is created now. -/
def settle (r : Registry) (name : String) (bound : Option Property) : Registry where
  now := r.now
  entry other :=
    if other = name then bound.map fun p => ⟨(r.since? name).getD r.now, p⟩ else r.entry other

/-- One edit later. -/
def tick (r : Registry) : Registry := { r with now := r.now + 1 }

def perform (r : Registry) (e : Namespace.Edit) : Except Fault Bool × Registry :=
  match (r.property? e.name).bind e.faultAt with
  | some f => (.error f, r.tick)
  | none =>
    (.ok (e.answer (r.property? e.name)),
      (r.settle e.name (e.outcome (r.property? e.name))).tick)

/-- The registry after some edits from the beginning. -/
def after (edits : List Namespace.Edit) : Registry :=
  edits.foldl (fun r e => (r.perform e).2) empty

theorem after_snoc (edits : List Namespace.Edit) (e : Namespace.Edit) :
    after (edits ++ [e]) = ((after edits).perform e).2 := by
  simp [after]

/-- Both names are bound, and `a` was created before `b`. -/
def Older (r : Registry) (a b : String) : Prop :=
  ∃ i j, r.since? a = some i ∧ r.since? b = some j ∧ i < j

/-- The namespace binds what the registry says, in the order in which the names were created. -/
structure Describes (r : Registry) (g : Namespace) : Prop where
  property : ∀ name, g.property? name = r.property? name
  chronological : g.names.Pairwise r.Older
  past : ∀ name i, r.since? name = some i → i < r.now

/-! ## One edit -/

variable {r : Registry} {g : Namespace}

theorem property?_settle (r : Registry) (name other : String) (bound : Option Property) :
    (r.settle name bound).property? other = if other = name then bound else r.property? other := by
  simp only [property?, settle]
  split
  · cases bound <;> rfl
  · rfl

theorem since?_settle (r : Registry) (name other : String) (bound : Option Property) :
    (r.settle name bound).since? other =
      if other = name then bound.map fun _ => (r.since? name).getD r.now else r.since? other := by
  simp only [since?, settle]
  split
  · cases bound <;> rfl
  · rfl

theorem describes_empty : empty.Describes .empty where
  property _ := rfl
  chronological := List.Pairwise.nil
  past _ _ h := by cases h

theorem since?_isSome (r : Registry) (name : String) :
    (r.since? name).isSome = (r.property? name).isSome := by
  simp [since?, property?]

theorem Describes.since?_isSome (h : r.Describes g) {name : String} (hname : name ∈ g.names) :
    ∃ i, r.since? name = some i := by
  rw [Namespace.mem_names_iff, h.property, ← r.since?_isSome] at hname
  exact Option.isSome_iff_exists.mp hname

theorem Describes.tick (h : r.Describes g) : r.tick.Describes g where
  property := h.property
  chronological := h.chronological
  past name i hi := Nat.lt_succ_of_lt (h.past name i hi)

/-- Names keep their order when none of them changes its moment. -/
theorem Describes.chronological_of_sublist (h : r.Describes g) {r' : Registry} {names : List String}
    (hsublist : names.Sublist g.names) (hsame : ∀ name ∈ names, r'.since? name = r.since? name) :
    names.Pairwise r'.Older := by
  refine (h.chronological.sublist hsublist).imp_of_mem ?_
  rintro a b ha hb ⟨i, j, hi, hj, hij⟩
  exact ⟨i, j, (hsame a ha).trans hi, (hsame b hb).trans hj, hij⟩

/-- The names after one name was settled. A name that is bound keeps its place, a new one comes
last, and one that is no longer bound leaves the others in their order. -/
theorem Describes.chronological_settle (h : r.Describes g) (name : String)
    (bound : Option Property) :
    (g.settle name bound).names.Pairwise (r.settle name bound).tick.Older := by
  have hother : ∀ other, other ≠ name →
      (r.settle name bound).tick.since? other = r.since? other := by
    intro other hne
    exact (since?_settle r name other bound).trans (if_neg hne)
  cases bound with
  | none =>
    rw [Namespace.settle, Namespace.names_erase]
    refine h.chronological_of_sublist List.filter_sublist fun other hmem => ?_
    exact hother other (by simpa using (List.mem_filter.mp hmem).2)
  | some p =>
    by_cases hname : name ∈ g.names
    · obtain ⟨i, hi⟩ := h.since?_isSome hname
      rw [Namespace.settle, Namespace.names_write_of_mem hname]
      refine h.chronological_of_sublist (List.Sublist.refl _) fun other _ => ?_
      by_cases hne : other = name
      · subst hne
        refine (since?_settle r other other (some p)).trans ?_
        simp [hi]
      · exact hother other hne
    · have hnew : (r.settle name (some p)).tick.since? name = some r.now := by
        have hnone : r.since? name = none := by
          rw [← Option.not_isSome_iff_eq_none, r.since?_isSome, ← h.property,
            ← Namespace.mem_names_iff]
          exact hname
        refine (since?_settle r name name (some p)).trans ?_
        simp [hnone]
      rw [Namespace.settle, Namespace.names_write_of_not_mem hname, List.pairwise_append]
      refine ⟨?_, List.pairwise_singleton _ _, ?_⟩
      · refine h.chronological_of_sublist (List.Sublist.refl _) fun other hmem => ?_
        exact hother other fun he => hname (he ▸ hmem)
      · intro other hmem last hlast
        rw [List.mem_singleton.mp hlast]
        have hne : other ≠ name := fun he => hname (he ▸ hmem)
        obtain ⟨i, hi⟩ := h.since?_isSome hmem
        exact ⟨i, r.now, (hother other hne).trans hi, hnew, h.past other i hi⟩

theorem Describes.settle (h : r.Describes g) (name : String) (bound : Option Property) :
    (r.settle name bound).tick.Describes (g.settle name bound) where
  property other := by
    rw [Namespace.property?_settle, h.property]
    exact (property?_settle r name other bound).symm
  chronological := h.chronological_settle name bound
  past other i hi := by
    have hsince := (since?_settle r name other bound).symm.trans hi
    show i < r.now + 1
    split at hsince
    · obtain ⟨p, -, hp⟩ := Option.map_eq_some_iff.mp hsince
      cases hold : r.since? name with
      | none =>
        rw [hold, Option.getD_none] at hp
        omega
      | some j =>
        have hj := h.past name j hold
        rw [hold, Option.getD_some] at hp
        omega
    · have := h.past other i hsince
      omega

/-- A namespace and its registry give the same answer to an edit, and stay together. -/
theorem Describes.perform (h : r.Describes g) (e : Namespace.Edit) :
    (e.perform g).1 = (r.perform e).1 ∧ (r.perform e).2.Describes (e.perform g).2 := by
  rw [Namespace.Edit.perform_eq, Registry.perform, h.property]
  cases (r.property? e.name).bind e.faultAt with
  | some f => exact ⟨rfl, h.tick⟩
  | none => exact ⟨rfl, h.settle e.name _⟩

/-! ## Histories -/

theorem describes_after (edits : List Namespace.Edit) :
    (after edits).Describes (Namespace.edited edits) := by
  induction edits using List.reverseRecOn with
  | nil => exact describes_empty
  | append_singleton edits e ih =>
    rw [after_snoc, Namespace.edited_snoc]
    exact (ih.perform e).2

theorem now_after (edits : List Namespace.Edit) : (after edits).now = edits.length := by
  induction edits using List.reverseRecOn with
  | nil => rfl
  | append_singleton edits e ih =>
    have hnow : ((after edits).perform e).2.now = (after edits).now + 1 := by
      unfold perform
      split <;> rfl
    rw [after_snoc, hnow, ih, List.length_append, List.length_singleton]

/-- A name that is bound after an edit has its old moment if it was bound before, and the present
one if it was not. -/
theorem since?_perform (r : Registry) (e : Namespace.Edit) (name : String) :
    (r.perform e).2.since? name =
      ((r.perform e).2.property? name).map fun _ => (r.since? name).getD r.now := by
  have hkept : r.since? name = (r.property? name).map fun _ => (r.since? name).getD r.now := by
    unfold since? property?
    cases r.entry name <;> rfl
  unfold perform
  split
  · exact hkept
  · have hsince := since?_settle r e.name name (e.outcome (r.property? e.name))
    have hproperty := property?_settle r e.name name (e.outcome (r.property? e.name))
    by_cases hname : name = e.name
    · rw [if_pos hname] at hsince hproperty
      rw [hname] at hsince hproperty ⊢
      exact hsince.trans (congrArg _ hproperty.symm)
    · rw [if_neg hname] at hsince hproperty
      exact hsince.trans (hkept.trans (congrArg _ hproperty.symm))

end Registry

end CapabilityGateway
