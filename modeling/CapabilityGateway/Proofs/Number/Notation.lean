import CapabilityGateway.Proofs.Number.Fewest

/-!
# Plain and exponential notation

ECMAScript writes a number by its shortest digits and the position of the point. The point is
written out if it stands at most 21 places behind the front of the digits and fewer than six before
it, which is to say for decimals from `10 ^ (-6)` up to `10 ^ 21`. Otherwise one digit stands in
front of the point, and the power of ten follows.

The text of a number does not look at its digits to choose the notation. It compares the number with
the numbers nearest to the two bounds. The choice is the same, since numbers are ordered as their
shortest decimals are, and each of the two bounds is itself the shortest decimal of its number.

* `Decimal.plain_eq_positional`, `Decimal.exponential_eq_scientific`: the notations are the layouts.
* `Decimal.ten_zpow_le_toRat_iff`: the position of the point as a bound of the value.
* `Binary64.shortest_le_shortest_iff`: numbers are ordered as their shortest decimals are.
-/

namespace CapabilityGateway

namespace Decimal

/-- The position of the point, counted from the front of the digits. -/
def point (d : Decimal) : ℤ := d.exponent + (digits d.coefficient).length

/-- The point is close enough to the digits to be written out. -/
def IsPlain (d : Decimal) : Prop := -6 < d.point ∧ d.point ≤ 21

/-- Digits with the point written out: behind them, among them or in front of them. -/
def plain (ds : List Char) (point : ℤ) : List Char :=
  if ds.length ≤ point then ds ++ zeros (point - ds.length).toNat
  else if 0 < point then ds.take point.toNat ++ '.' :: ds.drop point.toNat
  else '0' :: '.' :: (zeros (-point).toNat ++ ds)

/-- Digits with the point behind the first one, if others follow, and a signed power of ten. -/
def exponential (ds : List Char) (point : ℤ) : List Char :=
  ds.take 1 ++ (if ds.length = 1 then [] else '.' :: ds.drop 1) ++ 'e' :: signed (point - 1)

instance (d : Decimal) : Decidable d.IsPlain := inferInstanceAs (Decidable (_ ∧ _))

/-- The decimal as ECMAScript writes it. -/
def written (d : Decimal) : List Char :=
  if d.IsPlain then plain (digits d.coefficient) d.point
  else exponential (digits d.coefficient) d.point

theorem plain_eq_positional (d : Decimal) :
    plain (digits d.coefficient) d.point = d.positional := by
  have hlength := length_digits_pos d.coefficient
  have hpoint : d.point = d.exponent + (digits d.coefficient).length := rfl
  simp only [plain, positional]
  by_cases hwhole : 0 ≤ d.exponent
  · have hzeros : (d.point - (digits d.coefficient).length).toNat = d.exponent.toNat := by omega
    rw [if_pos hwhole, if_pos (by omega), hzeros]
  · rw [if_neg hwhole, if_neg (by omega)]
    by_cases hinside : (-d.exponent).toNat < (digits d.coefficient).length
    · have hcut : d.point.toNat = (digits d.coefficient).length - (-d.exponent).toNat := by omega
      rw [if_pos hinside, if_pos (by omega), hcut]
    · have hcount : (-d.point).toNat = (-d.exponent).toNat - (digits d.coefficient).length := by
        omega
      rw [if_neg hinside, if_neg (by omega), hcount]

theorem exponential_eq_scientific (d : Decimal) :
    exponential (digits d.coefficient) d.point = d.scientific := by
  have hleading : d.point - 1 = d.leadingExponent := by
    have hlength := length_digits_pos d.coefficient
    rw [point, leadingExponent]
    omega
  rw [exponential, scientific, hleading]
  cases hds : digits d.coefficient with
  | nil => exact absurd hds (digits_ne_nil _)
  | cons c cs =>
    cases cs with
    | nil => rfl
    | cons c' cs => rfl

example : written ⟨25, -10⟩ = "2.5e-9".toList := by decide

/-! ## Bounds -/

/-- A decimal reaches a power of ten if its point is behind that of the power. -/
theorem ten_zpow_le_toRat_iff {d : Decimal} (h : 0 < d.coefficient) {k : ℤ} :
    10 ^ k ≤ d.toRat ↔ k < d.point := by
  have hpoint : d.point = d.exponent + (digits d.coefficient).length := rfl
  have hlength := length_digits_pos d.coefficient
  have hupper : d.coefficient < 10 ^ (digits d.coefficient).length :=
    (Nat.length_toDigits_le_iff (by decide) hlength).mp le_rfl
  have hlower : 10 ^ ((digits d.coefficient).length - 1) ≤ d.coefficient := by
    rcases Nat.eq_zero_or_pos ((digits d.coefficient).length - 1) with hone | hmore
    · rwa [hone, Nat.pow_zero]
    · refine not_lt.mp ((Nat.length_toDigits_le_iff (by decide) hmore).not.mp ?_)
      exact not_le.mpr (Nat.sub_lt hlength Nat.one_pos)
  constructor
  · intro hle
    have hlt : (10 : ℚ) ^ k < 10 ^ d.point := by
      calc (10 : ℚ) ^ k ≤ d.coefficient * 10 ^ d.exponent := hle
        _ < 10 ^ (digits d.coefficient).length * 10 ^ d.exponent :=
          mul_lt_mul_of_pos_right (by exact_mod_cast hupper) (by positivity)
        _ = 10 ^ d.point := by rw [hpoint, zpow_add₀ (by norm_num), zpow_natCast, mul_comm]
    exact (zpow_lt_zpow_iff_right₀ (by norm_num)).mp hlt
  · intro hlt
    calc (10 : ℚ) ^ k
        ≤ 10 ^ (((digits d.coefficient).length - 1 : Nat) + d.exponent) :=
          zpow_le_zpow_right₀ (by norm_num) (by omega)
      _ = 10 ^ ((digits d.coefficient).length - 1) * 10 ^ d.exponent := by
          rw [zpow_add₀ (by norm_num), zpow_natCast]
      _ ≤ d.coefficient * 10 ^ d.exponent :=
          mul_le_mul_of_nonneg_right (by exact_mod_cast hlower) (by positivity)

theorem isPlain_iff {d : Decimal} (h : 0 < d.coefficient) :
    d.IsPlain ↔ 10 ^ (-6 : ℤ) ≤ d.toRat ∧ d.toRat < 10 ^ (21 : ℤ) := by
  rw [IsPlain, ten_zpow_le_toRat_iff h, ← not_le (a := (10 : ℚ) ^ (21 : ℤ)),
    ten_zpow_le_toRat_iff h, not_lt]

end Decimal

namespace Binary64

variable {x y : Binary64}

/-- The shortest decimal is that of the absolute value. -/
theorem shortest_congr (h : x.magnitude = y.magnitude) : x.shortest = y.shortest := by
  have hfield : x.field = y.field := by rw [field, field, h]
  have hfraction : x.fraction = y.fraction := by rw [fraction, fraction, h]
  have hsignificand : x.significand = y.significand := by
    rw [significand, significand, hfield, hfraction]
  have hscale : x.scale = y.scale := by rw [scale, scale, hfield]
  have hinterval : x.interval = y.interval := by
    simp only [interval, hsignificand, hscale, hfield, hfraction]
  rw [shortest, shortest, hinterval]

/-- Numbers are ordered as their shortest decimals are. -/
theorem shortest_le_shortest_iff (hx : x.isFinite = true) (hxzero : x.isZero = false)
    (hy : y.isFinite = true) (hyzero : y.isZero = false) :
    x.shortest.toRat ≤ y.shortest.toRat ↔ x.magnitude ≤ y.magnitude := by
  have hnearest : ∀ {z : Binary64}, z.isFinite = true → z.isZero = false →
      Nearest z.shortest.toRat z.magnitude := fun hfinite hzero =>
    (within_interval_iff hfinite hzero).mp
      (Interval.contains_iff.mp (shortest_contained hfinite hzero))
  refine ⟨(hnearest hx hxzero).le (hnearest hy hyzero), fun hle => ?_⟩
  by_contra hlt
  have hge := (hnearest hy hyzero).le (hnearest hx hxzero) (not_le.mp hlt).le
  exact hlt (congrArg Decimal.toRat (shortest_congr (Nat.le_antisymm hle hge))).le

theorem shortest_millionth : millionth.shortest = ⟨1, -6⟩ := by decide +kernel

theorem shortest_sextillion : sextillion.shortest = ⟨1, 21⟩ := by decide +kernel

/-- The lower bound is the number nearest to a millionth. -/
theorem roundsTo_millionth : RoundsTo (10 ^ (-6 : ℤ)) millionth := by
  have hunsigned : millionth.unsigned = millionth := by decide +kernel
  have hreads :=
    (isShortest_shortest (x := millionth) (by decide +kernel) (by decide +kernel)).reads
  rwa [shortest_millionth, hunsigned, Decimal.toRat, Nat.cast_one, one_mul] at hreads

/-- The upper bound is the number nearest to `10 ^ 21`. -/
theorem roundsTo_sextillion : RoundsTo (10 ^ (21 : ℤ)) sextillion := by
  have hunsigned : sextillion.unsigned = sextillion := by decide +kernel
  have hreads :=
    (isShortest_shortest (x := sextillion) (by decide +kernel) (by decide +kernel)).reads
  rwa [shortest_sextillion, hunsigned, Decimal.toRat, Nat.cast_one, one_mul] at hreads

/-- The comparison with the two bounds finds out where the point of the shortest decimal is. -/
theorem isPlain_shortest_iff (hfinite : x.isFinite = true) (hzero : x.isZero = false) :
    x.shortest.IsPlain ↔
      millionth.magnitude ≤ x.magnitude ∧ x.magnitude < sextillion.magnitude := by
  have hlower := shortest_le_shortest_iff (x := millionth) (by decide +kernel) (by decide +kernel)
    hfinite hzero
  have hupper := shortest_le_shortest_iff (x := sextillion) (by decide +kernel) (by decide +kernel)
    hfinite hzero
  rw [shortest_millionth, Decimal.toRat, Nat.cast_one, one_mul] at hlower
  rw [shortest_sextillion, Decimal.toRat, Nat.cast_one, one_mul] at hupper
  rw [Decimal.isPlain_iff (shortest_pos hfinite hzero), hlower, ← not_le, hupper, not_le]

end Binary64

end CapabilityGateway
