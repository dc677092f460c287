import CapabilityGateway.Proofs.Number.Nearest

/-!
# Decimals that read back

The interval that the search for a shortest decimal works with is the set of rationals that round to
the number: its ends are half way to the neighbours, and they belong to it if the number is even.
What the search compares as natural numbers, over a common denominator, are these rationals.

* `Interval.contains_iff`: a grid point lies in the interval as a rational.
* `within_interval_iff`: the interval of a number is what rounds to it.
-/

namespace CapabilityGateway

/-- The value of a decimal. -/
def Decimal.toRat (d : Decimal) : ℚ := d.coefficient * 10 ^ d.exponent

namespace Binary64

namespace Interval

/-- The rational lies in the interval. -/
def Within (i : Interval) (q : ℚ) : Prop :=
  i.low * 2 ^ i.unit < q ∧ q < i.high * 2 ^ i.unit ∨
    i.closed = true ∧ (q = i.low * 2 ^ i.unit ∨ q = i.high * 2 ^ i.unit)

theorem pow_toNat {a : ℚ} (ha : a ≠ 0) (e : ℤ) : a ^ e.toNat = a ^ (-e).toNat * a ^ e := by
  rw [← zpow_natCast, ← zpow_natCast, ← zpow_add₀ ha]
  congr 1
  omega

/-- The common denominator of the interval and the grid. -/
theorem exists_denominator (i : Interval) (e : ℤ) :
    ∃ c : ℚ, 0 < c ∧ (i.gridSize e : ℚ) = c * 10 ^ e ∧ (i.unitSize e : ℚ) = c * 2 ^ i.unit := by
  refine ⟨10 ^ (-e).toNat * 2 ^ (-i.unit).toNat, by positivity, ?_, ?_⟩
  · rw [gridSize, Nat.cast_mul, Nat.cast_pow, Nat.cast_pow, Nat.cast_ofNat, Nat.cast_ofNat,
      pow_toNat (by norm_num) e]
    ring
  · rw [unitSize, Nat.cast_mul, Nat.cast_pow, Nat.cast_pow, Nat.cast_ofNat, Nat.cast_ofNat,
      pow_toNat (by norm_num) i.unit]
    ring

theorem contains_iff {i : Interval} {e : ℤ} {d : Nat} :
    i.contains e d = true ↔ i.Within (d * 10 ^ e) := by
  obtain ⟨c, hc, hgrid, hunit⟩ := i.exists_denominator e
  have hpoint : ((d * i.gridSize e : Nat) : ℚ) = c * (d * 10 ^ e) := by
    rw [Nat.cast_mul, hgrid]
    ring
  have hend : ∀ k : Nat, ((k * i.unitSize e : Nat) : ℚ) = c * (k * 2 ^ i.unit) := fun k => by
    rw [Nat.cast_mul, hunit]
    ring
  simp only [contains, Bool.or_eq_true, Bool.and_eq_true, decide_eq_true_eq, beq_iff_eq, Within]
  rw [← Nat.cast_lt (α := ℚ), ← Nat.cast_lt (α := ℚ), ← Nat.cast_inj (R := ℚ),
    ← Nat.cast_inj (R := ℚ), hpoint, hend, hend, mul_lt_mul_iff_right₀ hc, mul_lt_mul_iff_right₀ hc,
    mul_right_inj' hc.ne', mul_right_inj' hc.ne']

end Interval

/-! ## The interval of a number -/

/-- Below a power of two, the distance to the next number is half as long as above it. -/
theorem gap_eq_of_magnitude {x : Binary64} {m : Nat} (hm : x.magnitude = m + 1) :
    gap x.magnitude = (if x.fraction = 0 ∧ 1 < x.field then 2 else 1) * gap m := by
  have hfield : x.field = (m + 1) / 2 ^ 52 := by rw [field, hm]
  have hfraction : x.fraction = (m + 1) % 2 ^ 52 := by rw [fraction, hm]
  rw [gap, gap, ← field]
  split
  next hpower =>
    have hexponent : max x.field 1 - 1 = max (m / 2 ^ 52) 1 - 1 + 1 := by omega
    rw [hexponent, Nat.pow_succ, Nat.mul_comm]
  next hpower =>
    have hexponent : max x.field 1 - 1 = max (m / 2 ^ 52) 1 - 1 := by omega
    rw [hexponent, Nat.one_mul]

theorem level_succ (m : Nat) : level (m + 1) = level m + gap m * least := by
  rw [level, units_succ, level]
  push_cast
  ring

theorem level_magnitude (x : Binary64) : level x.magnitude = x.significand * 2 ^ x.scale := by
  rw [level, ← absolute_eq, absolute]

theorem two_zpow_unit (x : Binary64) : (2 : ℚ) ^ x.interval.unit = 2 ^ x.scale / 4 := by
  have hunit : x.interval.unit = x.scale - 2 := rfl
  rw [hunit, zpow_sub₀ (by norm_num)]
  norm_num

/-- The lower end is half way to the number below. -/
theorem two_mul_low {x : Binary64} (hzero : x.isZero = false) {m : Nat}
    (hm : x.magnitude = m + 1) :
    2 * (x.interval.low * 2 ^ x.interval.unit : ℚ) = level m + level (m + 1) := by
  have hpos := significand_pos hzero
  have hscale := two_zpow_scale x
  rw [gap_eq_of_magnitude hm] at hscale
  have hnumber : level (m + 1) = x.significand * 2 ^ x.scale := by rw [← hm, level_magnitude]
  have hbelow := level_succ m
  rw [two_zpow_unit]
  by_cases hpower : x.fraction = 0 ∧ 1 < x.field
  · have hlow : (x.interval.low : ℚ) = 4 * x.significand - 1 := by
      rw [interval, if_pos hpower, Nat.cast_sub (by omega)]
      push_cast
      ring
    have hgap : level m = x.significand * 2 ^ x.scale - 2 ^ x.scale / 2 := by
      rw [if_pos hpower] at hscale
      push_cast at hscale
      linarith
    rw [hlow, hgap, hnumber]
    ring
  · have hlow : (x.interval.low : ℚ) = 4 * x.significand - 2 := by
      rw [interval, if_neg hpower, Nat.cast_sub (by omega)]
      push_cast
      ring
    have hgap : level m = x.significand * 2 ^ x.scale - 2 ^ x.scale := by
      rw [if_neg hpower] at hscale
      push_cast at hscale
      linarith
    rw [hlow, hgap, hnumber]
    ring

/-- The upper end is half way to the number above. -/
theorem two_mul_high {x : Binary64} {m : Nat} (hm : x.magnitude = m + 1) :
    2 * (x.interval.high * 2 ^ x.interval.unit : ℚ) = level (m + 1) + level (m + 2) := by
  have hnumber : level (m + 1) = x.significand * 2 ^ x.scale := by rw [← hm, level_magnitude]
  have habove := level_succ (m + 1)
  rw [← hm, ← two_zpow_scale, hm] at habove
  have hhigh : (x.interval.high : ℚ) = 4 * x.significand + 2 := by
    rw [interval]
    push_cast
    ring
  rw [two_zpow_unit, hhigh, habove, hnumber]
  ring

/-- What lies in the interval of a number is what rounds to it. -/
theorem within_interval_iff {x : Binary64} (hfinite : x.isFinite = true) (hzero : x.isZero = false)
    {q : ℚ} : x.interval.Within q ↔ Nearest q x.magnitude := by
  have hmagnitude : x.magnitude < infinityMagnitude := by simpa [isFinite] using hfinite
  obtain ⟨m, hm⟩ : ∃ m, x.magnitude = m + 1 :=
    Nat.exists_eq_succ_of_ne_zero (by simpa [isZero] using hzero)
  have hlow := two_mul_low hzero hm
  have hhigh := two_mul_high hm
  have hclosed : x.interval.closed = true ↔ (m + 1) % 2 = 0 := by
    rw [← hm, ← significand_mod_two, interval, decide_eq_true_eq]
  rw [hm, nearest_iff (hm ▸ hmagnitude), ← hlow, ← hhigh, ← hclosed, Interval.Within,
    mul_lt_mul_iff_right₀ two_pos, mul_lt_mul_iff_right₀ two_pos, mul_right_inj' two_ne_zero,
    mul_right_inj' two_ne_zero]

end Binary64

end CapabilityGateway
