import CapabilityGateway.Proofs.Number.Shortest
import Mathlib.Algebra.Order.Field.Power
import Mathlib.Data.Rat.Cast.Order
import Mathlib.Order.Monotone.Basic
import Mathlib.Tactic.FieldSimp
import Mathlib.Tactic.Linarith
import Mathlib.Tactic.Positivity
import Mathlib.Tactic.Ring

/-!
# The values of binary64 numbers

A finite number is an exact rational. The numbers are counted by their magnitudes: a larger
magnitude is a larger absolute value, and from one magnitude to the next the value grows by the
distance that the exponent field says. Infinity is counted in, with the value that would come after
the largest finite one.

* `toRat`: the value of a number.
* `units_succ`: from one number to the next.
* `absolute_eq`, `units_strictMono`: absolute values are ordered as magnitudes are.
-/

namespace CapabilityGateway

namespace Binary64

/-- The absolute value. That of infinity is `2 ^ 1024`. -/
def absolute (x : Binary64) : ℚ := x.significand * 2 ^ x.scale

/-- The value. Both zeros have the value zero. -/
def toRat (x : Binary64) : ℚ := if x.negative then -x.absolute else x.absolute

/-! ## Counting by magnitude -/

/-- The distance to the next magnitude, in units of the least number above zero. -/
def gap (m : Nat) : Nat := 2 ^ (max (m / 2 ^ 52) 1 - 1)

/-- The absolute value of the number with a magnitude, in units of the least number above zero. -/
def units (m : Nat) : Nat :=
  (if m / 2 ^ 52 = 0 then m % 2 ^ 52 else 2 ^ 52 + m % 2 ^ 52) * gap m

theorem gap_pos (m : Nat) : 0 < gap m := Nat.pow_pos (by decide)

theorem units_succ (m : Nat) : units (m + 1) = units m + gap m := by
  have hsplit := Nat.div_add_mod m (2 ^ 52)
  have hlt := Nat.mod_lt m (y := 2 ^ 52) (by decide)
  rw [units, units, gap, gap]
  generalize hf : m / 2 ^ 52 = f at *
  generalize hr : m % 2 ^ 52 = r at *
  by_cases hcarry : r + 1 < 2 ^ 52
  · have hdiv : (m + 1) / 2 ^ 52 = f := by omega
    have hmod : (m + 1) % 2 ^ 52 = r + 1 := by omega
    rw [hdiv, hmod]
    split
    · rw [Nat.add_mul, Nat.one_mul]
    · rw [← Nat.add_assoc, Nat.add_mul, Nat.one_mul]
  · -- The fraction is full, so the exponent field goes up.
    have hdiv : (m + 1) / 2 ^ 52 = f + 1 := by omega
    have hmod : (m + 1) % 2 ^ 52 = 0 := by omega
    have hfull : r = 2 ^ 52 - 1 := by omega
    rw [hdiv, hmod, hfull]
    cases f with
    | zero => decide
    | succ f =>
      have hthis : max (f + 1) 1 - 1 = f := by omega
      have hnext : max (f + 1 + 1) 1 - 1 = f + 1 := by omega
      rw [hthis, hnext, if_neg (Nat.succ_ne_zero _), if_neg (Nat.succ_ne_zero _), Nat.pow_succ]
      omega

theorem units_strictMono : StrictMono units :=
  strictMono_nat_of_lt_succ fun m => by
    have := gap_pos m
    rw [units_succ]
    omega

theorem units_zero : units 0 = 0 := by decide

/-- The least number above zero. -/
def least : ℚ := 2 ^ (-1074 : ℤ)

theorem least_pos : 0 < least := zpow_pos (by norm_num) _

theorem two_zpow_scale (x : Binary64) : (2 : ℚ) ^ x.scale = gap x.magnitude * least := by
  have hscale : x.scale = ((max x.field 1 - 1 : Nat) : ℤ) + -1074 := by
    rw [scale]
    omega
  rw [hscale, zpow_add₀ (by norm_num), zpow_natCast, gap, ← field, least, Nat.cast_pow,
    Nat.cast_ofNat]

theorem absolute_eq (x : Binary64) : x.absolute = units x.magnitude * least := by
  have hunits : units x.magnitude = x.significand * gap x.magnitude := rfl
  rw [absolute, two_zpow_scale, hunits]
  push_cast
  ring

theorem absolute_nonneg (x : Binary64) : 0 ≤ x.absolute := by
  rw [absolute_eq]
  exact mul_nonneg (Nat.cast_nonneg _) least_pos.le

/-- The significand is even exactly if the magnitude is: the hidden bit and the exponent field weigh
an even number each. -/
theorem significand_mod_two (x : Binary64) : x.significand % 2 = x.magnitude % 2 := by
  rw [significand, fraction]
  split <;> omega

/-! ## Numbers by sign and magnitude -/

theorem ext_parts {x y : Binary64} (hnegative : x.negative = y.negative)
    (hmagnitude : x.magnitude = y.magnitude) : x = y := by
  have hx := x.bits.toNat_lt
  have hy := y.bits.toNat_lt
  have hsign : 2 ^ 63 ≤ x.bits.toNat ↔ 2 ^ 63 ≤ y.bits.toNat := decide_eq_decide.mp hnegative
  rw [magnitude, magnitude] at hmagnitude
  have hbits : x.bits = y.bits := UInt64.toNat_inj.mp (by omega)
  cases x
  cases y
  exact congrArg mk hbits

theorem toNat_bits_ofMagnitude (negative : Bool) {m : Nat} (h : m < 2 ^ 63) :
    (ofMagnitude negative m).bits.toNat = if negative then 2 ^ 63 + m else m := by
  rw [ofMagnitude, UInt64.toNat_ofNat']
  refine Nat.mod_eq_of_lt ?_
  split <;> omega

theorem magnitude_ofMagnitude (negative : Bool) {m : Nat} (h : m < 2 ^ 63) :
    (ofMagnitude negative m).magnitude = m := by
  rw [magnitude, toNat_bits_ofMagnitude negative h]
  split <;> omega

theorem negative_ofMagnitude (negative : Bool) {m : Nat} (h : m < 2 ^ 63) :
    (ofMagnitude negative m).negative = negative := by
  rw [Binary64.negative, toNat_bits_ofMagnitude negative h]
  cases negative with
  | false => exact decide_eq_false (by simpa using h)
  | true => exact decide_eq_true (Nat.le_add_right _ _)

end Binary64

end CapabilityGateway
