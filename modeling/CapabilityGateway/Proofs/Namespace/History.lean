import CapabilityGateway.Proofs.Installation.Plan
import CapabilityGateway.Proofs.Namespace.Edit

/-!
# The history of a namespace

Over its life a namespace is edited and has capabilities installed into it, in any order, and any of
this may fail. A fixed name outlives all of it: its attributes stay, and so does its value unless it
can be assigned to. A fixed name may still be redefined as what it is, which writes its property
anew, so its value stays up to sameness only, and a history needs sameness to be transitive.

* `Namespace.FixedPersist`: everything that is fixed before is as fixed afterwards.
* `Namespace.Change.fixedPersist`: one change keeps what is fixed.
* `Namespace.fixedPersist_after`: so does every history.
-/

namespace CapabilityGateway

/-- A fixed name that is bound to `p` may be bound to `q` at any later time. -/
structure Property.Persists (p q : Property) : Prop where
  attributes : q.attributes = p.attributes
  value : p.attributes.writable = false → q.value.same p.value = true

namespace Property.Persists

theorem refl (p : Property) : p.Persists p := ⟨rfl, fun _ => p.value.same_refl⟩

theorem trans {p q r : Property} (h₁ : p.Persists q) (h₂ : q.Persists r) : p.Persists r := by
  refine ⟨h₂.attributes.trans h₁.attributes, fun hp => ?_⟩
  have hq : q.attributes.writable = false := h₁.attributes ▸ hp
  exact Value.same_trans (h₂.value hq) (h₁.value hp)

theorem of_identical {p q : Property} (h : p.identical q = true) : p.Persists q := by
  obtain ⟨hattributes, hvalue⟩ := identical_iff.mp h
  exact ⟨hattributes.symm, fun _ => Value.same_symm hvalue⟩

theorem of_mayBecome {p q : Property} (h : p.MayBecome q) (hp : p.attributes.configurable = false) :
    p.Persists q := by
  rcases h with hc | ⟨hw, hattributes⟩ | hidentical
  · rw [hp] at hc
    cases hc
  · refine ⟨hattributes, fun hnot => ?_⟩
    rw [hw] at hnot
    cases hnot
  · exact of_identical hidentical

end Property.Persists

namespace Namespace

/-- Every name that is fixed in `g` is as fixed in `h`. -/
def FixedPersist (g h : Namespace) : Prop :=
  ∀ name p, g.property? name = some p → p.attributes.configurable = false →
    ∃ q, h.property? name = some q ∧ p.Persists q

theorem FixedPersist.refl (g : Namespace) : g.FixedPersist g :=
  fun _ p hp _ => ⟨p, hp, .refl p⟩

theorem FixedPersist.trans {g₁ g₂ g₃ : Namespace} (h₁ : g₁.FixedPersist g₂)
    (h₂ : g₂.FixedPersist g₃) : g₁.FixedPersist g₃ := by
  intro name p hp hfixed
  obtain ⟨q, hq, hpq⟩ := h₁ name p hp hfixed
  obtain ⟨r, hr, hqr⟩ := h₂ name q hq (hpq.attributes ▸ hfixed)
  exact ⟨r, hr, hpq.trans hqr⟩

/-! ## One change -/

theorem Edit.fixedPersist (g : Namespace) (e : Edit) : g.FixedPersist (e.perform g).2 := by
  rcases e.perform_cases g with hg | ⟨q, hg, -, hmay⟩ | ⟨hg, q, hq, hconfigurable⟩
  · rw [hg]
    exact .refl g
  · intro name p hp hfixed
    rw [hg]
    by_cases hname : name = e.name
    · subst hname
      exact ⟨q, property?_write_self g e.name q, .of_mayBecome (hmay p hp) hfixed⟩
    · exact ⟨p, (property?_write_of_ne hname g q).trans hp, .refl p⟩
  · intro name p hp hfixed
    rw [hg]
    by_cases hname : name = e.name
    · subst hname
      cases hp.symm.trans hq
      rw [hfixed] at hconfigurable
      cases hconfigurable
    · exact ⟨p, (property?_erase_of_ne hname g).trans hp, .refl p⟩

theorem fixedPersist_fixAll {g : Namespace} {bs : List (String × Value)}
    (h : Installation.Installable g bs) : g.FixedPersist (g.fixAll bs) := by
  intro name p hp hfixed
  by_cases hname : name ∈ Dictionary.names bs
  · obtain ⟨b, hb, rfl⟩ := List.mem_map.mp hname
    refine ⟨_, property?_fixAll_of_mem h.distinct hb g, ?_⟩
    rcases mayDefine_iff.mp (h.free b hb) p hp with hc | hidentical
    · rw [hfixed] at hc
      cases hc
    · exact .of_identical hidentical
  · exact ⟨p, (property?_fixAll_of_not_mem hname g).trans hp, .refl p⟩

theorem fixedPersist_run (g : Namespace) (bs : List (String × Value)) :
    g.FixedPersist (Installation.run g bs).left := by
  by_cases h : Installation.Installable g bs
  · rw [Installation.run_of_installable h]
    exact fixedPersist_fixAll h
  · obtain ⟨e, he⟩ := Installation.run_of_not_installable h
    rw [he]
    exact .refl g

/-- What can happen to a namespace. A capability set is installed as its bindings. -/
inductive Change where
  | edit (e : Edit)
  | install (bindings : List (String × Value))

/-- The namespace that a change leaves, whether it succeeds or not. -/
def Change.apply (g : Namespace) : Change → Namespace
  | .edit e => (e.perform g).2
  | .install bindings => (Installation.run g bindings).left

theorem Change.fixedPersist (g : Namespace) (c : Change) : g.FixedPersist (c.apply g) := by
  cases c with
  | edit e => exact e.fixedPersist g
  | install bindings => exact fixedPersist_run g bindings

/-! ## Histories -/

/-- The namespace after some changes. -/
def after (g : Namespace) (changes : List Change) : Namespace :=
  changes.foldl Change.apply g

theorem after_cons (g : Namespace) (c : Change) (changes : List Change) :
    g.after (c :: changes) = (c.apply g).after changes := rfl

theorem fixedPersist_after (g : Namespace) (changes : List Change) :
    g.FixedPersist (g.after changes) := by
  induction changes generalizing g with
  | nil => exact .refl g
  | cons c rest ih =>
    rw [after_cons]
    exact (c.fixedPersist g).trans (ih (c.apply g))

end Namespace

end CapabilityGateway
