import CapabilityGateway.Number.Shortest

/-!
# The search for the shortest decimal

The search goes down from a coarse grid and stops at the first with a point in the interval. It does
stop: twenty-four grids below the ceiling a step of the grid is no longer than the unit of the
interval, so the point above the number lies in it. What is found lies in the interval, above zero.

* `Interval.gridSize_le_unitSize`: the last grid is fine enough.
* `shortest_contained`: the shortest decimal reads back, as far as the interval tells.
-/

namespace CapabilityGateway

namespace Binary64

/-! ## The interval of a number -/

theorem field_le {x : Binary64} (h : x.isFinite = true) : x.field ≤ 2046 := by
  have hmagnitude : x.magnitude < infinityMagnitude := by simpa [isFinite] using h
  rw [infinityMagnitude] at hmagnitude
  rw [field]
  omega

theorem fraction_lt (x : Binary64) : x.fraction < 2 ^ 52 := Nat.mod_lt _ (by decide)

theorem significand_lt (x : Binary64) : x.significand < 2 ^ 53 := by
  have hfraction := x.fraction_lt
  rw [significand]
  split <;> omega

theorem significand_pos {x : Binary64} (h : x.isZero = false) : 0 < x.significand := by
  have hmagnitude : x.magnitude ≠ 0 := by simpa [isZero] using h
  rw [significand]
  split
  next hfield =>
    rw [field] at hfield
    rw [fraction]
    omega
  next => omega

/-! ## Powers of two and ten -/

/-- One comparison of powers gives others, as far as the ratio of the exponents allows. -/
theorem pow_le_pow_of_ratio {a b p q : Nat} (hp : p ≠ 0) (hb : 0 < b) (h : a ^ p ≤ b ^ q)
    {k u : Nat} (hratio : q * k ≤ p * u) : a ^ k ≤ b ^ u := by
  have hpower : (a ^ k) ^ p ≤ (b ^ u) ^ p := by
    calc (a ^ k) ^ p = (a ^ p) ^ k := by rw [← Nat.pow_mul, Nat.mul_comm, Nat.pow_mul]
      _ ≤ (b ^ q) ^ k := Nat.pow_le_pow_left h k
      _ = b ^ (q * k) := by rw [Nat.pow_mul]
      _ ≤ b ^ (p * u) := Nat.pow_le_pow_right hb hratio
      _ = (b ^ u) ^ p := by rw [← Nat.pow_mul, Nat.mul_comm]
  exact (Nat.pow_le_pow_iff_left hp).mp hpower

/-- Ten to the third is below two to the tenth. -/
theorem ten_pow_le_two_pow {k u : Nat} (h : 10 * k ≤ 3 * u) : 10 ^ k ≤ 2 ^ u :=
  pow_le_pow_of_ratio (by decide) (by decide) (by decide : 10 ^ 3 ≤ 2 ^ 10) h

/-- Ten to the 59th is below two to the 196th, and by little. -/
theorem ten_pow_le_two_pow_sharp {k u : Nat} (h : 196 * k ≤ 59 * u) : 10 ^ k ≤ 2 ^ u :=
  pow_le_pow_of_ratio (by decide) (by decide) (by decide : 10 ^ 59 ≤ 2 ^ 196) h

/-- Two to the 93rd is below ten to the 28th. -/
theorem two_pow_le_ten_pow {u k : Nat} (h : 28 * u ≤ 93 * k) : 2 ^ u ≤ 10 ^ k :=
  pow_le_pow_of_ratio (by decide) (by decide) (by decide : 2 ^ 93 ≤ 10 ^ 28) h

namespace Interval

variable {i : Interval}

theorem unitSize_pos (i : Interval) (e : Int) : 0 < i.unitSize e :=
  Nat.mul_pos (Nat.pow_pos (by decide)) (Nat.pow_pos (by decide))

theorem gridSize_pos (i : Interval) (e : Int) : 0 < i.gridSize e :=
  Nat.mul_pos (Nat.pow_pos (by decide)) (Nat.pow_pos (by decide))

/-- An interval as finite numbers have it. -/
structure Regular (i : Interval) : Prop where
  low_pos : 0 < i.low
  low_lt : i.low < i.centre
  high_eq : i.high = i.centre + 2
  centre_mod : i.centre % 4 = 0
  centre_lt : i.centre < 2 ^ 55
  unit_lower : -1076 ≤ i.unit
  unit_upper : i.unit ≤ 969

theorem regular_interval {x : Binary64} (hfinite : x.isFinite = true) (hzero : x.isZero = false) :
    x.interval.Regular := by
  have hpos := significand_pos hzero
  have hlt := x.significand_lt
  have hfield := field_le hfinite
  constructor
  all_goals simp only [interval, scale]
  · split <;> omega
  · split <;> omega
  all_goals omega

/-- Twenty-four grids below the ceiling, a step is no longer than the unit. -/
theorem gridSize_le_unitSize (h : i.Regular) :
    i.gridSize (i.ceiling - 24) ≤ i.unitSize (i.ceiling - 24) := by
  have hlength : i.centre.log2 + 1 ≤ 55 := by
    have := (Nat.log2_lt (by have := h.low_lt; omega)).mpr h.centre_lt
    omega
  have hlower := h.unit_lower
  have hupper := h.unit_upper
  have hceiling : i.ceiling = (i.unit + (i.centre.log2 + 1 : Nat)) * 30103 / 100000 + 2 := rfl
  rw [gridSize, unitSize]
  rcases Int.le_total 0 (i.ceiling - 24) with he | he
  · have hten : 10 * (i.ceiling - 24).toNat ≤ 3 * i.unit.toNat := by omega
    have hunit : (-i.unit).toNat = 0 := by omega
    have hgrid : (-(i.ceiling - 24)).toNat = 0 := by omega
    rw [hunit, hgrid, Nat.pow_zero, Nat.mul_one, Nat.mul_one]
    exact ten_pow_le_two_pow hten
  · have htwo : 28 * (-i.unit).toNat ≤ 93 * (-(i.ceiling - 24)).toNat := by omega
    have hgrid : (i.ceiling - 24).toNat = 0 := by omega
    rw [hgrid, Nat.pow_zero, Nat.one_mul]
    calc 2 ^ (-i.unit).toNat ≤ 10 ^ (-(i.ceiling - 24)).toNat := two_pow_le_ten_pow htwo
      _ ≤ 2 ^ i.unit.toNat * 10 ^ (-(i.ceiling - 24)).toNat :=
        Nat.le_mul_of_pos_left _ (Nat.pow_pos (by decide))

/-! ## The search -/

theorem contains_of_lt {e : Int} {d : Nat} (hlow : i.low * i.unitSize e < d * i.gridSize e)
    (hhigh : d * i.gridSize e < i.high * i.unitSize e) : i.contains e d = true := by
  simp [contains, hlow, hhigh]

/-- A point of the interval is not zero. -/
theorem pos_of_contains (h : i.Regular) {e : Int} {d : Nat} (hd : i.contains e d = true) :
    0 < d := by
  have hlow : 0 < i.low * i.unitSize e := Nat.mul_pos h.low_pos (i.unitSize_pos e)
  have hhigh : 0 < i.high * i.unitSize e := by
    have : 0 < i.high := by rw [h.high_eq]; omega
    exact Nat.mul_pos this (i.unitSize_pos e)
  have hpoint : 0 < d * i.gridSize e := by
    simp only [contains, Bool.or_eq_true, Bool.and_eq_true, decide_eq_true_eq, beq_iff_eq] at hd
    omega
  exact Nat.pos_of_mul_pos_right hpoint

/-- The point of a grid at or below the number. -/
def below (i : Interval) (e : Int) : Nat := i.centre * i.unitSize e / i.gridSize e

theorem below_mul_le (i : Interval) (e : Int) :
    i.below e * i.gridSize e ≤ i.centre * i.unitSize e :=
  Nat.div_mul_le_self _ _

theorem lt_above_mul (i : Interval) (e : Int) :
    i.centre * i.unitSize e < (i.below e + 1) * i.gridSize e := by
  rw [Nat.mul_comm _ (i.gridSize e)]
  exact Nat.lt_mul_div_succ _ (i.gridSize_pos e)

/-- What is taken from a grid is one of the two points around the number. -/
theorem nearest?_eq (i : Interval) (e : Int) :
    i.nearest? e =
      match i.contains e (i.below e), i.contains e (i.below e + 1) with
      | true, true =>
        some (if (i.below e + 1) * i.gridSize e - i.centre * i.unitSize e ≤
            i.centre * i.unitSize e - i.below e * i.gridSize e then i.below e + 1
          else i.below e)
      | true, false => some (i.below e)
      | false, true => some (i.below e + 1)
      | false, false => none := by
  simp only [nearest?, decide_eq_true_eq]
  rfl

theorem contains_of_nearest? {e : Int} {d : Nat} (h : i.nearest? e = some d) :
    i.contains e d = true := by
  rw [nearest?_eq] at h
  split at h
  next hd hsucc =>
    split at h
    · cases h; exact hsucc
    · cases h; exact hd
  next hd _ => cases h; exact hd
  next _ hsucc => cases h; exact hsucc
  next => cases h

/-- A grid with steps no longer than the unit has a point in the interval. -/
theorem nearest?_isSome (h : i.Regular) {e : Int} (hgrid : i.gridSize e ≤ i.unitSize e) :
    ∃ d, i.nearest? e = some d := by
  have hbelow := i.below_mul_le e
  have habove := i.lt_above_mul e
  have hlow : i.low * i.unitSize e ≤ i.centre * i.unitSize e :=
    Nat.mul_le_mul_right _ (Nat.le_of_lt h.low_lt)
  have hupper : i.contains e (i.below e + 1) = true := by
    apply contains_of_lt
    · exact Nat.lt_of_le_of_lt hlow habove
    · have hunit := i.unitSize_pos e
      rw [h.high_eq, Nat.add_mul, Nat.add_mul, Nat.one_mul]
      omega
  rw [nearest?_eq, hupper]
  split
  next => exact ⟨_, rfl⟩
  next heq => cases heq
  next => exact ⟨_, rfl⟩
  next heq => cases heq

/-- The search ends with a point that it takes from a grid, if it visits a grid with one. -/
theorem nearest?_search {n : Nat} {e : Int} (h : ∃ d, i.nearest? (e - n) = some d) :
    i.nearest? (i.search n e).exponent = some (i.search n e).coefficient := by
  induction n generalizing e with
  | zero =>
    obtain ⟨d, hd⟩ := h
    rw [Int.natCast_zero, Int.sub_zero] at hd
    simp only [search, hd, Option.getD_some]
  | succ n ih =>
    rw [search]
    split
    next d hd => exact hd
    next =>
      have hnext : e - 1 - n = e - (n + 1 : Nat) := by omega
      exact ih (hnext ▸ h)

end Interval

theorem nearest?_shortest {x : Binary64} (hfinite : x.isFinite = true) (hzero : x.isZero = false) :
    x.interval.nearest? x.shortest.exponent = some x.shortest.coefficient :=
  Interval.nearest?_search
    (Interval.nearest?_isSome (Interval.regular_interval hfinite hzero)
      (Interval.gridSize_le_unitSize (Interval.regular_interval hfinite hzero)))

/-- The shortest decimal is in the interval of the number. -/
theorem shortest_contained {x : Binary64} (hfinite : x.isFinite = true) (hzero : x.isZero = false) :
    x.interval.contains x.shortest.exponent x.shortest.coefficient = true :=
  Interval.contains_of_nearest? (nearest?_shortest hfinite hzero)

theorem shortest_pos {x : Binary64} (hfinite : x.isFinite = true) (hzero : x.isZero = false) :
    0 < x.shortest.coefficient :=
  Interval.pos_of_contains (Interval.regular_interval hfinite hzero)
    (shortest_contained hfinite hzero)

end Binary64

end CapabilityGateway
