import CapabilityGateway.Host.World
import CapabilityGateway.Proofs.Namespace.Values

/-!
# What a namespace can know

A namespace holds values that were made before, so none of them has an identity that is still to be
given out. Something new is therefore identical to nothing in a namespace, and defining it is a
question of attributes alone.

* `Namespace.KnownTo`: everything in the namespace was made before.
* `Namespace.knownTo_after`: a history that only uses what was made before keeps that.
* `Namespace.KnownTo.mayDefine_eq`: something new may be defined where nothing is fixed.
-/

namespace CapabilityGateway

/-- The identity of a value that has one. -/
def Value.identity? : Value → Option Identity
  | .array i _ => some i
  | .object i _ => some i
  | .function f => some f.identity
  | _ => none

/-- The value was made before: its identity, if it has one, is given out. -/
def Value.KnownTo (v : Value) (w : World) : Prop := ∀ i, v.identity? = some i → i < w.next

theorem Value.knownTo_of_plain {v : Value} (h : v.identity? = none) (w : World) : v.KnownTo w := by
  intro i hi
  rw [h] at hi
  cases hi

namespace Namespace

/-- Everything that the namespace holds was made before. -/
def KnownTo (g : Namespace) (w : World) : Prop :=
  ∀ name p, g.property? name = some p → p.value.KnownTo w

/-- The name is bound and not configurable. -/
def isFixed (g : Namespace) (name : String) : Bool :=
  (g.property? name).any fun p => !p.attributes.configurable

variable {g : Namespace} {w : World}

/-! ## Namespaces that use what was made before -/

theorem knownTo_empty (w : World) : empty.KnownTo w :=
  allValues_empty fun v => v.KnownTo w

/-- The change brings along only values that were made before. -/
def Change.KnownTo (w : World) : Change → Prop
  | .edit e => ∀ v, e.value? = some v → v.KnownTo w
  | .install bindings => ∀ b ∈ bindings, b.2.KnownTo w

/-- A history that brings along only what was made before leaves a namespace that holds nothing
else. -/
theorem knownTo_after (h : g.KnownTo w) {changes : List Change}
    (hchanges : ∀ c ∈ changes, c.KnownTo w) : (g.after changes).KnownTo w := by
  have hg : g.AllValues fun v => v.KnownTo w := h
  refine hg.after fun c hc => ?_
  have hknown := hchanges c hc
  cases c <;> exact hknown

/-! ## Something new -/

variable {i : Identity} {properties : List (String × Value)}

/-- No namespace holds an object that is still to be made. -/
theorem KnownTo.not_identical (h : g.KnownTo w) (hi : w.next ≤ i) {name : String} {p : Property}
    (hp : g.property? name = some p) :
    p.identical (.fixedHidden (.object i properties)) = false := by
  rw [Bool.eq_false_iff]
  intro hidentical
  have hsame : p.value.same (.object i properties) = true :=
    (Property.identical_iff.mp hidentical).2
  have hknown := h name p hp
  cases hv : p.value with
  | object j _ =>
    simp only [hv, Value.same, Value.eq, beq_iff_eq] at hsame
    have hj : j < w.next := hknown j (by rw [hv]; rfl)
    exact absurd (hsame ▸ hj) (Nat.not_lt.mpr hi)
  | _ => simp [hv, Value.same, Value.eq] at hsame

theorem KnownTo.mayDefine_eq (h : g.KnownTo w) (hi : w.next ≤ i) (name : String) :
    g.mayDefine name (.fixedHidden (.object i properties)) = !g.isFixed name := by
  unfold mayDefine isFixed
  cases hp : g.property? name with
  | none => rfl
  | some p => simp [h.not_identical hi hp]

end Namespace

end CapabilityGateway
