import CapabilityGateway.Proofs.Number.Layout
import CapabilityGateway.Proofs.Number.ReadBack

/-!
# The fewest digits

The search for a decimal goes from coarse grids to fine ones, and no grid coarser than the one that
it starts with has a point in the interval. So it ends on the coarsest grid that has one. Then no
decimal of the interval has fewer digits: between it and the one that was found there would be a
power of ten, which is a point of a coarser grid.

* `Interval.exponent_le_search`: the search finds the coarsest grid.
* `isShortest_shortest`: what it finds has the fewest digits, and is the nearest on its grid.
-/

namespace CapabilityGateway

namespace Binary64

namespace Interval

variable {i : Interval} {e : ℤ} {d : Nat} {p q r : ℚ}

/-! ## The interval as a set -/

/-- The number itself. -/
def middle (i : Interval) : ℚ := i.centre * 2 ^ i.unit

theorem within_middle (h : i.Regular) : i.Within i.middle := by
  have hunit : (0 : ℚ) < 2 ^ i.unit := by positivity
  have hlow : (i.low : ℚ) < i.centre := Nat.cast_lt.mpr h.low_lt
  have hhigh : (i.centre : ℚ) < i.high := by
    rw [h.high_eq]
    exact Nat.cast_lt.mpr (by omega)
  exact .inl ⟨mul_lt_mul_of_pos_right hlow hunit, mul_lt_mul_of_pos_right hhigh hunit⟩

theorem Within.bounds (h : i.Regular) (hq : i.Within q) :
    i.low * 2 ^ i.unit ≤ q ∧ q ≤ i.high * 2 ^ i.unit := by
  have hmiddle : (i.low * 2 ^ i.unit : ℚ) ≤ i.high * 2 ^ i.unit := by
    have hle : (i.low : ℚ) ≤ i.high := Nat.cast_le.mpr (by rw [h.high_eq]; have := h.low_lt; omega)
    exact mul_le_mul_of_nonneg_right hle (by positivity)
  rcases hq with ⟨hlow, hhigh⟩ | ⟨-, hlow | hhigh⟩
  · exact ⟨hlow.le, hhigh.le⟩
  · exact ⟨hlow.ge, hlow.trans_le hmiddle⟩
  · exact ⟨hmiddle.trans hhigh.ge, hhigh.le⟩

/-- With two rationals, the interval has all between them. -/
theorem Within.between (h : i.Regular) (hp : i.Within p) (hr : i.Within r) (hpq : p ≤ q)
    (hqr : q ≤ r) : i.Within q := by
  have hlow := (hp.bounds h).1.trans hpq
  have hhigh := hqr.trans (hr.bounds h).2
  rcases hlow.eq_or_lt with hend | hlow
  · rcases hp with ⟨hstrict, -⟩ | ⟨hclosed, -⟩
    · exact absurd hpq (by rw [← hend]; exact not_le.mpr hstrict)
    · exact .inr ⟨hclosed, .inl hend.symm⟩
  · rcases hhigh.eq_or_lt with hend | hhigh
    · rcases hr with ⟨-, hstrict⟩ | ⟨hclosed, -⟩
      · exact absurd hqr (by rw [hend]; exact not_le.mpr hstrict)
      · exact .inr ⟨hclosed, .inr hend⟩
    · exact .inl ⟨hlow, hhigh⟩

/-! ## Grids that are too coarse -/

/-- The factor of the ceiling is close enough to the logarithm of two for all numbers that occur. -/
theorem two_zpow_le_ten_zpow {t : ℤ} (hlower : -1076 ≤ t) (hupper : t ≤ 1076) :
    (2 : ℚ) ^ t ≤ 10 ^ (t * 30103 / 100000 + 2) := by
  generalize hc : t * 30103 / 100000 + 2 = c
  rcases le_total 0 t with ht | ht
  · obtain ⟨u, rfl⟩ := Int.eq_ofNat_of_zero_le ht
    obtain ⟨k, rfl⟩ := Int.eq_ofNat_of_zero_le (by omega : 0 ≤ c)
    rw [zpow_natCast, zpow_natCast]
    exact_mod_cast two_pow_le_ten_pow (u := u) (k := k) (by omega)
  · obtain ⟨u, hu⟩ := Int.eq_ofNat_of_zero_le (neg_nonneg.mpr ht)
    obtain rfl : t = -u := by omega
    rcases le_total 0 c with hnonneg | hneg
    · calc (2 : ℚ) ^ (-u : ℤ) ≤ 1 := zpow_le_one_of_nonpos₀ one_le_two (by omega)
        _ ≤ 10 ^ c := one_le_zpow₀ (by norm_num) hnonneg
    · obtain ⟨k, hk⟩ := Int.eq_ofNat_of_zero_le (neg_nonneg.mpr hneg)
      obtain rfl : c = -k := by omega
      have hpow : (10 : ℚ) ^ k ≤ 2 ^ u := by
        exact_mod_cast ten_pow_le_two_pow_sharp (k := k) (u := u) (by omega)
      rw [zpow_neg, zpow_neg, zpow_natCast, zpow_natCast]
      exact inv_anti₀ (by positivity) hpow

/-- The interval ends below the power of ten that the search starts with. -/
theorem Within.lt_ceiling (h : i.Regular) (hq : i.Within q) : q < 10 ^ i.ceiling := by
  have hcentre : i.centre ≠ 0 := by
    have := h.low_lt
    omega
  have hlog : i.centre.log2 < 55 := (Nat.log2_lt hcentre).mpr h.centre_lt
  have hfour : i.centre.log2 + 1 = i.centre.log2 - 1 + 2 := by
    have htwo : 2 ≤ i.centre.log2 := by
      rw [Nat.le_log2 hcentre]
      have := h.centre_mod
      omega
    omega
  -- The centre and the power of two above it are multiples of four, so two units fit between them.
  have hhigh : i.high < 2 ^ (i.centre.log2 + 1) := by
    have hlt : i.centre < 2 ^ (i.centre.log2 + 1) := Nat.lt_log2_self
    have hmod := h.centre_mod
    rw [h.high_eq]
    rw [hfour, Nat.pow_add] at hlt ⊢
    omega
  have hceiling : i.ceiling = (i.unit + (i.centre.log2 + 1 : Nat)) * 30103 / 100000 + 2 := rfl
  have hlower := h.unit_lower
  have hupper := h.unit_upper
  calc q ≤ i.high * 2 ^ i.unit := (hq.bounds h).2
    _ < 2 ^ (i.centre.log2 + 1) * 2 ^ i.unit :=
      mul_lt_mul_of_pos_right (by exact_mod_cast hhigh) (by positivity)
    _ = 2 ^ (i.unit + (i.centre.log2 + 1 : Nat)) := by
      rw [zpow_add₀ (by norm_num), zpow_natCast, mul_comm]
    _ ≤ 10 ^ i.ceiling := by
      rw [hceiling]
      exact two_zpow_le_ten_zpow (by omega) (by omega)

/-! ## One grid -/

theorem below_le_middle (i : Interval) (e : ℤ) : i.below e * 10 ^ e ≤ i.middle := by
  obtain ⟨c, hc, hgrid, hunit⟩ := i.exists_denominator e
  have hle : ((i.below e * i.gridSize e : Nat) : ℚ) ≤ (i.centre * i.unitSize e : Nat) :=
    Nat.cast_le.mpr (i.below_mul_le e)
  rw [Nat.cast_mul, Nat.cast_mul, hgrid, hunit, mul_left_comm, mul_left_comm _ c] at hle
  exact le_of_mul_le_mul_left hle hc

theorem middle_lt_above (i : Interval) (e : ℤ) : i.middle < (i.below e + 1 : Nat) * 10 ^ e := by
  obtain ⟨c, hc, hgrid, hunit⟩ := i.exists_denominator e
  have hlt : ((i.centre * i.unitSize e : Nat) : ℚ) < ((i.below e + 1) * i.gridSize e : Nat) :=
    Nat.cast_lt.mpr (i.lt_above_mul e)
  rw [Nat.cast_mul, Nat.cast_mul, hgrid, hunit, mul_left_comm, mul_left_comm _ c] at hlt
  exact lt_of_mul_lt_mul_left hlt hc.le

theorem point_le_point {a b : Nat} (h : a ≤ b) (e : ℤ) : (a * 10 ^ e : ℚ) ≤ b * 10 ^ e :=
  mul_le_mul_of_nonneg_right (Nat.cast_le.mpr h) (by positivity)

/-- A point of the interval is on one side of the number, and then the interval has the point of the
grid that is next to the number on this side. -/
theorem contains_side (h : i.Regular) (hd : i.contains e d = true) :
    d ≤ i.below e ∧ i.contains e (i.below e) = true ∨
      i.below e + 1 ≤ d ∧ i.contains e (i.below e + 1) = true := by
  rw [contains_iff] at hd
  rcases Nat.lt_or_ge (i.below e) d with hlt | hle
  · have habove : i.Within ((i.below e + 1 : Nat) * 10 ^ e) :=
      (within_middle h).between h hd (i.middle_lt_above e).le (point_le_point hlt e)
    exact .inr ⟨hlt, contains_iff.mpr habove⟩
  · have hbelow : i.Within (i.below e * 10 ^ e) :=
      hd.between h (within_middle h) (point_le_point hle e) (i.below_le_middle e)
    exact .inl ⟨hle, contains_iff.mpr hbelow⟩

/-- A grid with a point in the interval is not passed over. -/
theorem nearest?_ne_none (h : i.Regular) (hd : i.contains e d = true) : i.nearest? e ≠ none := by
  rw [nearest?_eq]
  rcases contains_side h hd with ⟨-, hside⟩ | ⟨-, hside⟩
  · cases habove : i.contains e (i.below e + 1) <;> simp [hside]
  · cases hbelow : i.contains e (i.below e) <;> simp [hside]

/-- Which of the two points next to the number is nearer, over the common denominator. -/
theorem above_near_iff (i : Interval) (e : ℤ) :
    (i.below e + 1) * i.gridSize e - i.centre * i.unitSize e ≤
        i.centre * i.unitSize e - i.below e * i.gridSize e ↔
      (i.below e + 1 : Nat) * 10 ^ e - i.middle ≤ i.middle - i.below e * 10 ^ e := by
  obtain ⟨c, hc, hgrid, hunit⟩ := i.exists_denominator e
  have hbelow := i.below_mul_le e
  have habove := i.lt_above_mul e
  have hsum : (i.below e + 1) * i.gridSize e - i.centre * i.unitSize e ≤
      i.centre * i.unitSize e - i.below e * i.gridSize e ↔
        (i.below e + 1) * i.gridSize e + i.below e * i.gridSize e ≤
          2 * (i.centre * i.unitSize e) := by
    omega
  have hleft : (((i.below e + 1) * i.gridSize e + i.below e * i.gridSize e : Nat) : ℚ) =
      c * ((i.below e + 1 : Nat) * 10 ^ e + i.below e * 10 ^ e) := by
    push_cast
    rw [hgrid]
    ring
  have hright : ((2 * (i.centre * i.unitSize e) : Nat) : ℚ) = c * (2 * i.middle) := by
    push_cast
    rw [hunit, middle]
    ring
  rw [hsum, ← Nat.cast_le (α := ℚ), hleft, hright, mul_le_mul_iff_right₀ hc]
  constructor <;> intro h <;> linarith

/-- The point that is taken from a grid is at least as near as each of the two next to the number
that the interval has. -/
theorem nearest?_le_sides (hd : i.nearest? e = some d) :
    (i.contains e (i.below e) = true →
      |d * 10 ^ e - i.middle| ≤ i.middle - i.below e * 10 ^ e) ∧
    (i.contains e (i.below e + 1) = true →
      |d * 10 ^ e - i.middle| ≤ (i.below e + 1 : Nat) * 10 ^ e - i.middle) := by
  have hbelow := i.below_le_middle e
  have habove := i.middle_lt_above e
  have hnear := i.above_near_iff e
  have hdown : |(i.below e * 10 ^ e : ℚ) - i.middle| = i.middle - i.below e * 10 ^ e := by
    rw [abs_sub_comm, abs_of_nonneg (by linarith)]
  have hup : |((i.below e + 1 : Nat) * 10 ^ e : ℚ) - i.middle| =
      (i.below e + 1 : Nat) * 10 ^ e - i.middle := abs_of_nonneg (by linarith)
  rw [nearest?_eq] at hd
  split at hd
  next hlower hupper =>
    split at hd
    next hchoice =>
      obtain rfl : i.below e + 1 = d := Option.some.inj hd
      rw [hup]
      exact ⟨fun _ => hnear.mp hchoice, fun _ => le_rfl⟩
    next hchoice =>
      obtain rfl : i.below e = d := Option.some.inj hd
      rw [hdown]
      exact ⟨fun _ => le_rfl, fun _ => (not_le.mp (hnear.not.mp hchoice)).le⟩
  next hlower hupper =>
    obtain rfl : i.below e = d := Option.some.inj hd
    rw [hdown, hupper]
    exact ⟨fun _ => le_rfl, fun habsent => by cases habsent⟩
  next hlower hupper =>
    obtain rfl : i.below e + 1 = d := Option.some.inj hd
    rw [hup, hlower]
    exact ⟨fun habsent => (by cases habsent), fun _ => le_rfl⟩
  next => cases hd

/-- The point that is taken from a grid is the nearest of the grid in the interval. -/
theorem nearest?_le (h : i.Regular) (hd : i.nearest? e = some d) {c : Nat}
    (hc : i.contains e c = true) :
    |d * 10 ^ e - i.middle| ≤ |c * 10 ^ e - i.middle| := by
  obtain ⟨hdown, hup⟩ := nearest?_le_sides hd
  rcases contains_side h hc with ⟨hle, hside⟩ | ⟨hle, hside⟩
  · have hpoint := point_le_point hle e
    calc |d * 10 ^ e - i.middle| ≤ i.middle - i.below e * 10 ^ e := hdown hside
      _ ≤ i.middle - c * 10 ^ e := by linarith
      _ ≤ |c * 10 ^ e - i.middle| := by
        rw [abs_sub_comm]
        exact le_abs_self _
  · have hpoint := point_le_point hle e
    calc |d * 10 ^ e - i.middle| ≤ (i.below e + 1 : Nat) * 10 ^ e - i.middle := hup hside
      _ ≤ c * 10 ^ e - i.middle := by linarith
      _ ≤ |c * 10 ^ e - i.middle| := le_abs_self _

/-! ## All grids -/

/-- The search does not go past a grid that has a point in the interval. -/
theorem exponent_le_search {n : Nat} {start : ℤ} (he : e ≤ start) (hd : i.nearest? e ≠ none) :
    e ≤ (i.search n start).exponent := by
  induction n generalizing start with
  | zero => exact he
  | succ n ih =>
    rw [search]
    split
    next => exact he
    next hnone =>
      have hne : e ≠ start := fun heq => hd (heq ▸ hnone)
      exact ih (by omega)

theorem lt_ceiling_of_contains (h : i.Regular) (hd : i.contains e d = true) : e < i.ceiling := by
  have hpos : 1 ≤ d := pos_of_contains h hd
  have hlt : (10 : ℚ) ^ e < 10 ^ i.ceiling := by
    calc (10 : ℚ) ^ e ≤ d * 10 ^ e :=
          le_mul_of_one_le_left (by positivity) (Nat.one_le_cast.mpr hpos)
      _ < 10 ^ i.ceiling := (contains_iff.mp hd).lt_ceiling h
  exact (zpow_lt_zpow_iff_right₀ (by norm_num)).mp hlt

end Interval

/-! ## The shortest decimal -/

/-- The absolute value as a number. -/
def unsigned (x : Binary64) : Binary64 := ofMagnitude false x.magnitude

/-- The decimal reads back as the absolute value of the number. No decimal with fewer digits does,
and none with the same power of ten is nearer to the number. -/
structure IsShortest (x : Binary64) (d : Decimal) : Prop where
  reads : RoundsTo d.toRat x.unsigned
  fewest : ∀ d' : Decimal, RoundsTo d'.toRat x.unsigned →
    (Decimal.digits d.coefficient).length ≤ (Decimal.digits d'.coefficient).length
  nearest : ∀ d' : Decimal, d'.exponent = d.exponent → RoundsTo d'.toRat x.unsigned →
    |d.toRat - x.unsigned.toRat| ≤ |d'.toRat - x.unsigned.toRat|

variable {x : Binary64}

theorem magnitude_unsigned (x : Binary64) : x.unsigned.magnitude = x.magnitude :=
  magnitude_ofMagnitude false (Nat.mod_lt _ (by decide))

theorem negative_unsigned (x : Binary64) : x.unsigned.negative = false :=
  negative_ofMagnitude false (Nat.mod_lt _ (by decide))

theorem toRat_unsigned (x : Binary64) : x.unsigned.toRat = level x.magnitude := by
  rw [toRat_of_not_negative x.negative_unsigned, magnitude_unsigned]

theorem middle_interval (x : Binary64) : x.interval.middle = level x.magnitude := by
  have hcentre : x.interval.centre = 4 * x.significand := rfl
  rw [Interval.middle, two_zpow_unit, level_magnitude, hcentre]
  push_cast
  ring

/-- A decimal reads back as the absolute value if its point is in the interval. -/
theorem roundsTo_unsigned_iff (hfinite : x.isFinite = true) (hzero : x.isZero = false)
    {d : Decimal} :
    RoundsTo d.toRat x.unsigned ↔ x.interval.contains d.exponent d.coefficient = true := by
  have hnonneg : 0 ≤ d.toRat := mul_nonneg (Nat.cast_nonneg _) (by positivity)
  rw [roundsTo_iff, negative_unsigned, magnitude_unsigned, abs_of_nonneg hnonneg,
    decide_eq_false (not_lt.mpr hnonneg), Interval.contains_iff, within_interval_iff hfinite hzero]
  exact and_iff_right rfl

/-- No decimal that reads back is on a coarser grid. -/
theorem exponent_le_shortest (hfinite : x.isFinite = true) (hzero : x.isZero = false) {e : ℤ}
    {d : Nat} (hd : x.interval.contains e d = true) : e ≤ x.shortest.exponent := by
  have h := Interval.regular_interval hfinite hzero
  exact Interval.exponent_le_search (Interval.lt_ceiling_of_contains h hd).le
    (Interval.nearest?_ne_none h hd)

/-- Between a decimal with fewer digits and the one that was found there is a power of ten, and it
would be found first. -/
theorem length_shortest_le (hfinite : x.isFinite = true) (hzero : x.isZero = false) {e : ℤ}
    {d : Nat} (hd : x.interval.contains e d = true) :
    (Decimal.digits x.shortest.coefficient).length ≤ (Decimal.digits d).length := by
  have h := Interval.regular_interval hfinite hzero
  have hexponent := exponent_le_shortest hfinite hzero hd
  have hfound := shortest_contained hfinite hzero
  by_contra hfewer
  generalize hk : (Decimal.digits d).length = k at hfewer
  have hkpos : 0 < k := hk ▸ Decimal.length_digits_pos d
  have hupper : d < 10 ^ k := (Nat.length_toDigits_le_iff (by decide) hkpos).mp hk.le
  have hlower : 10 ^ k ≤ x.shortest.coefficient :=
    not_lt.mp ((Nat.length_toDigits_le_iff (by decide) hkpos).not.mp hfewer)
  have hbelow : (d * 10 ^ e : ℚ) ≤ 10 ^ (k + x.shortest.exponent) := by
    calc (d * 10 ^ e : ℚ) ≤ 10 ^ k * 10 ^ x.shortest.exponent := by
          gcongr
          · exact_mod_cast hupper.le
          · norm_num
      _ = 10 ^ (k + x.shortest.exponent) := by rw [zpow_add₀ (by norm_num), zpow_natCast]
  have habove : (10 : ℚ) ^ (k + x.shortest.exponent) ≤
      x.shortest.coefficient * 10 ^ x.shortest.exponent := by
    rw [zpow_add₀ (by norm_num), zpow_natCast]
    gcongr
    exact_mod_cast hlower
  have hpower : x.interval.contains (k + x.shortest.exponent) 1 = true := by
    rw [Interval.contains_iff, Nat.cast_one, one_mul]
    exact (Interval.contains_iff.mp hd).between h (Interval.contains_iff.mp hfound) hbelow habove
  have := exponent_le_shortest hfinite hzero hpower
  omega

/-- What the search finds is the shortest decimal that reads back. -/
theorem isShortest_shortest (hfinite : x.isFinite = true) (hzero : x.isZero = false) :
    IsShortest x x.shortest where
  reads := (roundsTo_unsigned_iff hfinite hzero).mpr (shortest_contained hfinite hzero)
  fewest d' hd' := length_shortest_le hfinite hzero ((roundsTo_unsigned_iff hfinite hzero).mp hd')
  nearest d' hexponent hd' := by
    have hd' := (roundsTo_unsigned_iff hfinite hzero).mp hd'
    have hnearest := Interval.nearest?_le (Interval.regular_interval hfinite hzero)
      (nearest?_shortest hfinite hzero) (hexponent ▸ hd')
    rw [middle_interval, ← hexponent] at hnearest
    rw [toRat_unsigned, Decimal.toRat, Decimal.toRat, ← hexponent]
    exact hnearest

end Binary64

end CapabilityGateway
