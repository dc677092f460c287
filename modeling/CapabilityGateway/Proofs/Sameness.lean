import CapabilityGateway.Guest.Namespace

/-!
# Sameness is an equivalence

`Value.same` is reflexive, symmetric and transitive, and so is `Property.identical`. Numbers need
the bits or the shared property of being NaN; everything else is compared by an identity or by
equality of plain data.
-/

namespace CapabilityGateway

namespace Binary64

theorem same_iff {x y : Binary64} :
    x.same y = true ↔ x.bits = y.bits ∨ x.isNaN = true ∧ y.isNaN = true := by
  simp [same]

theorem same_refl (x : Binary64) : x.same x = true := same_iff.mpr (Or.inl rfl)

theorem same_symm {x y : Binary64} (h : x.same y = true) : y.same x = true := by
  rcases same_iff.mp h with h | ⟨hx, hy⟩
  · exact same_iff.mpr (Or.inl h.symm)
  · exact same_iff.mpr (Or.inr ⟨hy, hx⟩)

theorem isNaN_congr {x y : Binary64} (h : x.bits = y.bits) : x.isNaN = y.isNaN := by
  cases x
  cases y
  cases h
  rfl

theorem same_trans {x y z : Binary64} (h₁ : x.same y = true) (h₂ : y.same z = true) :
    x.same z = true := by
  rcases same_iff.mp h₁ with hxy | ⟨hx, hy⟩
  · rcases same_iff.mp h₂ with hyz | ⟨hy, hz⟩
    · exact same_iff.mpr (Or.inl (hxy.trans hyz))
    · exact same_iff.mpr (Or.inr ⟨(isNaN_congr hxy).trans hy, hz⟩)
  · rcases same_iff.mp h₂ with hyz | ⟨_, hz⟩
    · exact same_iff.mpr (Or.inr ⟨hx, (isNaN_congr hyz).symm.trans hy⟩)
    · exact same_iff.mpr (Or.inr ⟨hx, hz⟩)

end Binary64

namespace Value

theorem same_refl (v : Value) : v.same v = true := by
  cases v with
  | number n => exact n.same_refl
  | _ => simp [same, eq]

theorem same_symm {u v : Value} (h : u.same v = true) : v.same u = true := by
  cases u with
  | number m =>
    cases v with
    | number n => exact Binary64.same_symm h
    | _ => simp [same, eq] at h
  | _ => cases v <;> simp_all [same, eq]

theorem same_trans {u v x : Value} (h₁ : u.same v = true) (h₂ : v.same x = true) :
    u.same x = true := by
  cases u with
  | number m =>
    cases v with
    | number n =>
      cases x with
      | number k => exact Binary64.same_trans h₁ h₂
      | _ => simp [same, eq] at h₂
    | _ => simp [same, eq] at h₁
  | _ =>
    -- `h₁` leaves one kind for `v`, and then `h₂` leaves the same kind for `x`.
    cases v <;> simp only [same, eq, beq_iff_eq, Bool.false_eq_true] at h₁
    all_goals cases x <;> simp_all [same, eq]

end Value

namespace Property

theorem identical_iff {p q : Property} :
    p.identical q = true ↔ p.attributes = q.attributes ∧ p.value.same q.value = true := by
  simp [identical]

theorem identical_refl (p : Property) : p.identical p = true :=
  identical_iff.mpr ⟨rfl, p.value.same_refl⟩

theorem identical_symm {p q : Property} (h : p.identical q = true) : q.identical p = true := by
  obtain ⟨ha, hv⟩ := identical_iff.mp h
  exact identical_iff.mpr ⟨ha.symm, Value.same_symm hv⟩

theorem identical_trans {p q r : Property} (h₁ : p.identical q = true)
    (h₂ : q.identical r = true) : p.identical r = true := by
  obtain ⟨ha₁, hv₁⟩ := identical_iff.mp h₁
  obtain ⟨ha₂, hv₂⟩ := identical_iff.mp h₂
  exact identical_iff.mpr ⟨ha₁.trans ha₂, Value.same_trans hv₁ hv₂⟩

end Property

end CapabilityGateway
