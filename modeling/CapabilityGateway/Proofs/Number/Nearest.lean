import CapabilityGateway.Proofs.Number.Value
import Mathlib.Algebra.Order.Group.Abs

/-!
# Rounding to the nearest number

A rational rounds to the number nearest to it, and of two numbers that are equally near to the one
with an even significand. The result has the sign of the rational; zero is positive. Overflow needs
no rule of its own, because infinity counts as the number after the largest finite one.

Rounding is determined and monotone. Between two neighbours it changes half way, which is how the
rationals that round to a given number come to be an interval.

* `RoundsTo`: a rational rounds to a number.
* `Nearest.le`: rounding is monotone; `RoundsTo.unique`: it has one result.
* `nearest_iff`: the interval of a number.
-/

namespace CapabilityGateway

namespace Binary64

/-- The rational rounds to the number, to nearest with ties to even. -/
structure RoundsTo (q : ℚ) (x : Binary64) : Prop where
  number : x.isNaN = false
  sign : x.negative = decide (q < 0)
  nearest : ∀ y : Binary64, y.isNaN = false → |q - x.toRat| ≤ |q - y.toRat|
  even : ∀ y : Binary64, y.isNaN = false → |q - x.toRat| = |q - y.toRat| →
    y.toRat = x.toRat ∨ x.significand % 2 = 0

/-! ## Absolute values -/

/-- The absolute value of the number with a magnitude. -/
def level (m : Nat) : ℚ := units m * least

/-- Among the absolute values of numbers, that of magnitude `m` is nearest to `q`. -/
structure Nearest (q : ℚ) (m : Nat) : Prop where
  number : m ≤ infinityMagnitude
  nearest : ∀ k ≤ infinityMagnitude, |q - level m| ≤ |q - level k|
  even : ∀ k ≤ infinityMagnitude, |q - level m| = |q - level k| → k = m ∨ m % 2 = 0

theorem level_strictMono : StrictMono level := fun a b h => by
  have hunits : (units a : ℚ) < units b := Nat.cast_lt.mpr (units_strictMono h)
  exact mul_lt_mul_of_pos_right hunits least_pos

theorem level_zero : level 0 = 0 := by rw [level, units_zero, Nat.cast_zero, zero_mul]

theorem level_nonneg (m : Nat) : 0 ≤ level m := by
  rw [← level_zero]
  exact level_strictMono.monotone (Nat.zero_le m)

/-- Of two numbers, the upper one is at least as near from half way on. -/
theorem abs_upper_le_iff {q x y : ℚ} (h : y < x) : |q - x| ≤ |q - y| ↔ x + y ≤ 2 * q := by
  have hsquares : (q - y) ^ 2 - (q - x) ^ 2 = (x - y) * (2 * q - (x + y)) := by ring
  rw [← sq_le_sq, ← sub_nonneg, hsquares, mul_nonneg_iff_of_pos_left (sub_pos.mpr h), sub_nonneg]

/-- Up to half way, the lower one is. -/
theorem abs_lower_le_iff {q x y : ℚ} (h : y < x) : |q - y| ≤ |q - x| ↔ 2 * q ≤ x + y := by
  have hsquares : (q - x) ^ 2 - (q - y) ^ 2 = (x - y) * (x + y - 2 * q) := by ring
  rw [← sq_le_sq, ← sub_nonneg, hsquares, mul_nonneg_iff_of_pos_left (sub_pos.mpr h), sub_nonneg]

namespace Nearest

variable {q r : ℚ} {a b m : Nat}

/-- The larger of two rationals does not round to a smaller number. -/
theorem le (hq : Nearest q a) (hr : Nearest r b) (h : q ≤ r) : a ≤ b := by
  by_contra hlt
  have hlevels := level_strictMono (not_le.mp hlt)
  have hqa := (abs_upper_le_iff hlevels).mp (hq.nearest b hr.number)
  have hrb := (abs_lower_le_iff hlevels).mp (hr.nearest a hq.number)
  -- Both are half way between the two numbers, so both numbers are even and another lies between.
  have hqTie : |q - level a| = |q - level b| :=
    le_antisymm (hq.nearest b hr.number) ((abs_lower_le_iff hlevels).mpr (by linarith))
  have hrTie : |r - level b| = |r - level a| :=
    le_antisymm (hr.nearest a hq.number) ((abs_upper_le_iff hlevels).mpr (by linarith))
  have hcount := hq.number
  obtain hab | haEven := hq.even b hr.number hqTie
  · omega
  obtain hab | hbEven := hr.even a hq.number hrTie
  · omega
  have hbetween : b + 1 < a := by omega
  have hupper := (abs_upper_le_iff (level_strictMono hbetween)).mp (hq.nearest (b + 1) (by omega))
  have hlower := level_strictMono (Nat.lt_succ_self b)
  linarith

theorem unique (ha : Nearest q a) (hb : Nearest q b) : a = b :=
  Nat.le_antisymm (ha.le hb le_rfl) (hb.le ha le_rfl)

end Nearest

/-- The rationals whose nearest number is a given one: those between the points half way to its
neighbours, and these points too if the number is even. -/
theorem nearest_iff {q : ℚ} {m : Nat} (hm : m + 1 < infinityMagnitude) :
    Nearest q (m + 1) ↔
      level m + level (m + 1) < 2 * q ∧ 2 * q < level (m + 1) + level (m + 2) ∨
        (m + 1) % 2 = 0 ∧
          (2 * q = level m + level (m + 1) ∨ 2 * q = level (m + 1) + level (m + 2)) := by
  have hbelow := level_strictMono (Nat.lt_succ_self m)
  have habove := level_strictMono (Nat.lt_succ_self (m + 1))
  constructor
  · intro h
    have hlower := (abs_upper_le_iff hbelow).mp (h.nearest m (by omega))
    have hupper := (abs_lower_le_iff habove).mp (h.nearest (m + 2) (by omega))
    rcases hlower.eq_or_lt with htie | hlower
    · have hequal : |q - level (m + 1)| = |q - level m| :=
        le_antisymm (h.nearest m (by omega)) ((abs_lower_le_iff hbelow).mpr htie.ge)
      obtain hm | heven := h.even m (by omega) hequal
      · omega
      · exact .inr ⟨heven, .inl (by linarith)⟩
    · rcases hupper.eq_or_lt with htie | hupper
      · have hequal : |q - level (m + 1)| = |q - level (m + 2)| :=
          le_antisymm (h.nearest (m + 2) (by omega)) ((abs_upper_le_iff habove).mpr htie.ge)
        obtain hm | heven := h.even (m + 2) (by omega) hequal
        · omega
        · exact .inr ⟨heven, .inr (by linarith)⟩
      · exact .inl ⟨by linarith, by linarith⟩
  · intro h
    have hlower : level m + level (m + 1) ≤ 2 * q := by rcases h with h | h <;> grind
    have hupper : 2 * q ≤ level (m + 1) + level (m + 2) := by rcases h with h | h <;> grind
    refine ⟨by omega, fun k hk => ?_, fun k hk htie => ?_⟩
    · rcases Nat.lt_trichotomy k (m + 1) with hlt | rfl | hgt
      · have hlevel := level_strictMono.monotone (Nat.le_of_lt_succ hlt)
        exact (abs_upper_le_iff (level_strictMono hlt)).mpr (by linarith)
      · exact le_rfl
      · have hlevel : level (m + 2) ≤ level k := level_strictMono.monotone hgt
        exact (abs_lower_le_iff (level_strictMono hgt)).mpr (by linarith)
    · rcases h with ⟨hstrictLower, hstrictUpper⟩ | ⟨heven, -⟩
      · left
        rcases Nat.lt_trichotomy k (m + 1) with hlt | rfl | hgt
        · have hlevel := level_strictMono.monotone (Nat.le_of_lt_succ hlt)
          have := (abs_lower_le_iff (level_strictMono hlt)).mp htie.ge
          linarith
        · rfl
        · have hlevel : level (m + 2) ≤ level k := level_strictMono.monotone hgt
          have := (abs_upper_le_iff (level_strictMono hgt)).mp htie.ge
          linarith
      · exact .inr heven

theorem nearest_zero : Nearest 0 0 := by
  refine ⟨Nat.zero_le _, fun k _ => ?_, fun k _ _ => .inr rfl⟩
  rw [level_zero, sub_zero, abs_zero]
  exact abs_nonneg _

/-! ## Signs -/

theorem abs_toRat (x : Binary64) : |x.toRat| = level x.magnitude := by
  rw [toRat]
  split
  · rw [abs_neg, abs_of_nonneg x.absolute_nonneg, absolute_eq, level]
  · rw [abs_of_nonneg x.absolute_nonneg, absolute_eq, level]

theorem toRat_of_negative {x : Binary64} (h : x.negative = true) :
    x.toRat = -level x.magnitude := by
  rw [toRat, if_pos h, absolute_eq, level]

theorem toRat_of_not_negative {x : Binary64} (h : x.negative = false) :
    x.toRat = level x.magnitude := by
  rw [toRat, h, absolute_eq, level]
  rfl

/-- The distance to a number of the same sign is that of the absolute values. -/
theorem abs_sub_toRat {q : ℚ} {x : Binary64} (h : x.negative = decide (q < 0)) :
    |q - x.toRat| = |(|q|) - level x.magnitude| := by
  by_cases hq : q < 0
  · rw [toRat_of_negative (by simpa [hq] using h), abs_of_neg hq, ← abs_neg]
    congr 1
    ring
  · rw [toRat_of_not_negative (by simpa [hq] using h), abs_of_nonneg (not_lt.mp hq)]

/-- The distance to a number of the other sign is the sum of the absolute values. -/
theorem abs_sub_toRat_of_ne {q : ℚ} {x : Binary64} (h : x.negative ≠ decide (q < 0)) :
    |q - x.toRat| = |q| + level x.magnitude := by
  have hlevel := level_nonneg x.magnitude
  by_cases hq : q < 0
  · rw [toRat_of_not_negative (by simpa [hq] using h), abs_of_neg hq, abs_of_nonpos (by linarith)]
    ring
  · have hq := not_lt.mp hq
    have hnegative : x.negative = true := by simpa [not_lt.mpr hq] using h
    rw [toRat_of_negative hnegative, abs_of_nonneg hq, abs_of_nonneg (by linarith)]
    ring

/-- Rounding keeps the sign and rounds the absolute value. -/
theorem roundsTo_iff {q : ℚ} {x : Binary64} :
    RoundsTo q x ↔ x.negative = decide (q < 0) ∧ Nearest |q| x.magnitude := by
  constructor
  · intro h
    have hbits : infinityMagnitude < 2 ^ 63 := by decide
    have hnumber : x.magnitude ≤ infinityMagnitude := by simpa [isNaN] using h.number
    have hother : ∀ k ≤ infinityMagnitude, ∃ y : Binary64, y.isNaN = false ∧
        y.negative = x.negative ∧ y.magnitude = k := fun k hk => by
      have hmagnitude := magnitude_ofMagnitude x.negative (Nat.lt_of_le_of_lt hk hbits)
      exact ⟨ofMagnitude x.negative k, by simp [isNaN, hmagnitude, hk],
        negative_ofMagnitude _ (Nat.lt_of_le_of_lt hk hbits), hmagnitude⟩
    refine ⟨h.sign, hnumber, fun k hk => ?_, fun k hk htie => ?_⟩
    · obtain ⟨y, hy, hsign, rfl⟩ := hother k hk
      rw [← abs_sub_toRat h.sign, ← abs_sub_toRat (hsign.trans h.sign)]
      exact h.nearest y hy
    · obtain ⟨y, hy, hsign, rfl⟩ := hother k hk
      rw [← abs_sub_toRat h.sign, ← abs_sub_toRat (hsign.trans h.sign)] at htie
      rw [← significand_mod_two]
      refine (h.even y hy htie).imp_left fun hvalue => ?_
      have hlevel := congrArg abs hvalue
      rw [abs_toRat, abs_toRat] at hlevel
      exact level_strictMono.injective hlevel
  · rintro ⟨hsign, hnearest⟩
    have hnumber : ∀ y : Binary64, y.isNaN = false → y.magnitude ≤ infinityMagnitude :=
      fun y hy => by simpa [isNaN] using hy
    -- A number of the other sign is not nearer than the one of the same magnitude.
    have hturned : ∀ y : Binary64,
        |(|q|) - level y.magnitude| ≤ |q| + level y.magnitude := fun y => by
      have hlevel := level_nonneg y.magnitude
      have hq := abs_nonneg q
      exact abs_le.mpr ⟨by linarith, by linarith⟩
    refine ⟨by simpa [isNaN] using hnearest.number, hsign, fun y hy => ?_, fun y hy htie => ?_⟩
    · rw [abs_sub_toRat hsign]
      have hle := hnearest.nearest y.magnitude (hnumber y hy)
      by_cases hsame : y.negative = decide (q < 0)
      · rwa [abs_sub_toRat hsame]
      · rw [abs_sub_toRat_of_ne hsame]
        exact hle.trans (hturned y)
    · rw [abs_sub_toRat hsign] at htie
      rw [significand_mod_two]
      have hle := hnearest.nearest y.magnitude (hnumber y hy)
      by_cases hsame : y.negative = decide (q < 0)
      · rw [abs_sub_toRat hsame] at htie
        refine (hnearest.even y.magnitude (hnumber y hy) htie).imp_left fun hmagnitude => ?_
        rw [ext_parts (hsame.trans hsign.symm) hmagnitude]
      · rw [abs_sub_toRat_of_ne hsame] at htie
        have hequal : |(|q|) - level x.magnitude| = |(|q|) - level y.magnitude| :=
          le_antisymm hle ((hturned y).trans htie.ge)
        refine (hnearest.even y.magnitude (hnumber y hy) hequal).imp_left fun hmagnitude => ?_
        have hzero : level x.magnitude = 0 := by
          rw [hmagnitude] at htie
          rcases le_total (level x.magnitude) |q| with hle | hle
          · rw [abs_of_nonneg (by linarith)] at htie
            linarith
          · rw [abs_of_nonpos (by linarith)] at htie
            have hq : |q| = 0 := by linarith
            rw [hq] at hnearest
            rw [hnearest.unique nearest_zero, level_zero]
        have hx : x.toRat = 0 := abs_eq_zero.mp ((abs_toRat x).trans hzero)
        have hy : y.toRat = 0 := abs_eq_zero.mp ((abs_toRat y).trans (hmagnitude ▸ hzero))
        rw [hx, hy]

/-- A rational rounds to one number only. -/
theorem RoundsTo.unique {q : ℚ} {x y : Binary64} (hx : RoundsTo q x) (hy : RoundsTo q y) :
    x = y := by
  obtain ⟨hsign, hnearest⟩ := roundsTo_iff.mp hx
  obtain ⟨hsign', hnearest'⟩ := roundsTo_iff.mp hy
  exact ext_parts (hsign.trans hsign'.symm) (hnearest.unique hnearest')

end Binary64

end CapabilityGateway
