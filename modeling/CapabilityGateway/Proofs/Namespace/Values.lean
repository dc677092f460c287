import CapabilityGateway.Proofs.Namespace.History

/-!
# What the values of a namespace have in common

A change of a namespace brings values along and invents none. So if all values that a namespace
holds are of some kind, and so are those that a change brings along, the namespace holds values of
that kind afterwards, whether the change succeeds or not.

* `Namespace.AllValues.apply`, `Namespace.AllValues.after`: one change, and any number of them.
-/

namespace CapabilityGateway

namespace Namespace

/-- Every value that the namespace holds is of the kind. -/
def AllValues (P : Value → Prop) (g : Namespace) : Prop :=
  ∀ name p, g.property? name = some p → P p.value

/-- Every value that the change brings along is of the kind. -/
def Change.AllValues (P : Value → Prop) : Change → Prop
  | .edit e => ∀ v, e.value? = some v → P v
  | .install bindings => ∀ b ∈ bindings, P b.2

variable {P : Value → Prop} {g : Namespace}

theorem allValues_empty (P : Value → Prop) : empty.AllValues P := by
  intro name p hp
  cases hp

namespace AllValues

theorem write (h : g.AllValues P) (name : String) {p : Property} (hp : P p.value) :
    (g.write name p).AllValues P := by
  intro other q hq
  rw [property?_write] at hq
  split at hq
  · cases hq
    exact hp
  · exact h other q hq

theorem erase (h : g.AllValues P) (name : String) : (g.erase name).AllValues P := by
  intro other q hq
  by_cases hname : other = name
  · rw [hname, property?_erase_self] at hq
    cases hq
  · rw [property?_erase_of_ne hname] at hq
    exact h other q hq

theorem fixAll (h : g.AllValues P) {bs : List (String × Value)} (hbs : ∀ b ∈ bs, P b.2) :
    (g.fixAll bs).AllValues P := by
  induction bs generalizing g with
  | nil => exact h
  | cons b rest ih =>
    have hb := hbs b List.mem_cons_self
    exact ih (h.write b.1 hb) fun c hc => hbs c (List.mem_cons_of_mem _ hc)

theorem run (h : g.AllValues P) {bs : List (String × Value)} (hbs : ∀ b ∈ bs, P b.2) :
    (Installation.run g bs).left.AllValues P := by
  by_cases hi : Installation.Installable g bs
  · rw [Installation.run_of_installable hi]
    exact h.fixAll hbs
  · obtain ⟨e, he⟩ := Installation.run_of_not_installable hi
    rwa [he]

theorem apply (h : g.AllValues P) {c : Change} (hc : c.AllValues P) : (c.apply g).AllValues P := by
  cases c with
  | edit e =>
    show (e.perform g).2.AllValues P
    rcases e.perform_cases g with hg | ⟨q, hg, hvalue, -⟩ | ⟨hg, -⟩
    · rwa [hg]
    · rw [hg]
      exact h.write e.name (hc q.value hvalue)
    · rw [hg]
      exact h.erase e.name
  | install bindings => exact h.run hc

theorem after (h : g.AllValues P) {changes : List Change}
    (hchanges : ∀ c ∈ changes, c.AllValues P) : (g.after changes).AllValues P := by
  induction changes generalizing g with
  | nil => exact h
  | cons c rest ih =>
    obtain ⟨hc, hrest⟩ := List.forall_mem_cons.mp hchanges
    rw [after_cons]
    exact ih (h.apply hc) hrest

end AllValues

end Namespace

end CapabilityGateway
