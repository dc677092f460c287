import CapabilityGateway.Proofs.Namespace.Lookup

/-!
# Edits

What a guest, or the engine on its behalf, does to a namespace: it defines, assigns and removes
names. `Edit.perform` carries an edit out, whether it succeeds or not, and `Edit.perform_cases` says
everything that it can come to, so that later proofs need not look into the operations again.
-/

namespace CapabilityGateway

namespace Namespace

inductive Edit where
  | define (name : String) (p : Property)
  | set (name : String) (v : Value)
  | delete (name : String)

namespace Edit

/-- The name that the edit is about. -/
def name : Edit → String
  | .define name _ => name
  | .set name _ => name
  | .delete name => name

/-- The value that the edit brings along. -/
def value? : Edit → Option Value
  | .define _ p => some p.value
  | .set _ v => some v
  | .delete _ => none

/-- How an edit ends, and the namespace that it leaves. A removal answers whether there was
something to remove, the other edits answer yes. A fault leaves the namespace as it was. -/
def perform (g : Namespace) : Edit → Except Fault Bool × Namespace
  | .define name p =>
    match g.define name p with
    | .ok g' => (.ok true, g')
    | .error f => (.error f, g)
  | .set name v =>
    match g.set name v with
    | .ok g' => (.ok true, g')
    | .error f => (.error f, g)
  | .delete name =>
    match g.delete name with
    | .ok (removed, g') => (.ok removed, g')
    | .error f => (.error f, g)

end Edit

end Namespace

/-- A name bound to `p` may be bound to `q` next: it may be redefined, or assigned to, or `q` is
what it is bound to already. -/
def Property.MayBecome (p q : Property) : Prop :=
  p.attributes.configurable = true ∨
    (p.attributes.writable = true ∧ q.attributes = p.attributes) ∨ p.identical q = true

namespace Namespace

namespace Edit

/-- An edit changes nothing, or binds its name to its value, if the name may be bound to that, or
removes its name, which then was configurable. -/
theorem perform_cases (g : Namespace) (e : Edit) :
    (e.perform g).2 = g ∨
      (∃ q, (e.perform g).2 = g.write e.name q ∧ e.value? = some q.value ∧
        ∀ p, g.property? e.name = some p → p.MayBecome q) ∨
      ((e.perform g).2 = g.erase e.name ∧
        ∃ p, g.property? e.name = some p ∧ p.attributes.configurable = true) := by
  cases e with
  | define name q =>
    rcases define_cases g name q with ⟨hmay, hdef⟩ | hdef
    · refine Or.inr (Or.inl ⟨q, by simp [perform, Edit.name, hdef], rfl, fun p hp => ?_⟩)
      exact (mayDefine_iff.mp hmay p hp).imp_right Or.inr
    · exact Or.inl (by simp [perform, hdef])
  | set name v =>
    cases hp : g.property? name with
    | none =>
      refine Or.inr (Or.inl ⟨⟨v, .ordinary⟩, ?_, rfl, fun p hp' => ?_⟩)
      · simp [perform, Namespace.set, Edit.name, hp]
      · simp [Edit.name, hp] at hp'
    | some p =>
      cases hw : p.attributes.writable with
      | false => exact Or.inl (by simp [perform, Namespace.set, hp, hw])
      | true =>
        refine Or.inr (Or.inl ⟨⟨v, p.attributes⟩, ?_, rfl, fun p' hp' => ?_⟩)
        · simp [perform, Namespace.set, Edit.name, hp, hw]
        · cases hp.symm.trans hp'
          exact Or.inr (Or.inl ⟨hw, rfl⟩)
  | delete name =>
    cases hp : g.property? name with
    | none => exact Or.inl (by simp [perform, Namespace.delete, hp])
    | some p =>
      cases hc : p.attributes.configurable with
      | false => exact Or.inl (by simp [perform, Namespace.delete, hp, hc])
      | true =>
        exact Or.inr (Or.inr ⟨by simp [perform, Namespace.delete, Edit.name, hp, hc], p, hp, hc⟩)

end Edit

end Namespace

end CapabilityGateway
