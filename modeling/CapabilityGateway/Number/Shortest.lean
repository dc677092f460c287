import CapabilityGateway.Number.Binary64
import CapabilityGateway.Number.Decimal

/-!
# The shortest decimal that reads back

Reading a decimal gives the nearest binary64 number, so the decimals that read back as a given
number fill an interval around it: half way to each neighbour, with the ends belonging to the
interval when the significand is even. The text of a number uses the coarsest power-of-ten grid
that meets this interval, and on that grid the point nearest to the number. Of two points at equal
distance the upper one is taken.

Everything is exact. The number, the ends of its interval and the points of the grid are compared
over a common denominator as natural numbers.
-/

namespace CapabilityGateway

namespace Binary64

/-- The decimals that read back as a number, in units of a quarter of the distance to the next
larger number: the number itself is `centre`, and the interval runs from `low` to `high`. -/
structure Interval where
  low : Nat
  centre : Nat
  high : Nat
  /-- Power of two of the unit. -/
  unit : Int
  /-- The ends themselves read back as the number. -/
  closed : Bool

/-- The interval of a finite number other than zero. Below a power of two the neighbour is only
half as far away as above it. -/
def interval (x : Binary64) : Interval where
  low := 4 * x.significand - (if x.fraction = 0 ∧ 1 < x.field then 1 else 2)
  centre := 4 * x.significand
  high := 4 * x.significand + 2
  unit := x.scale - 2
  closed := x.significand % 2 = 0

namespace Interval

/-- One unit of the interval over the common denominator with the grid of `10 ^ e`. -/
def unitSize (i : Interval) (e : Int) : Nat := 2 ^ i.unit.toNat * 10 ^ (-e).toNat

/-- One step of the grid of `10 ^ e` over the same denominator. -/
def gridSize (i : Interval) (e : Int) : Nat := 10 ^ e.toNat * 2 ^ (-i.unit).toNat

/-- The grid point `d * 10 ^ e` lies in the interval. -/
def contains (i : Interval) (e : Int) (d : Nat) : Bool :=
  let p := d * i.gridSize e
  let low := i.low * i.unitSize e
  let high := i.high * i.unitSize e
  decide (low < p ∧ p < high) || i.closed && (p == low || p == high)

/-- The grid point nearest to the number among the two around it that lie in the interval. -/
def nearest? (i : Interval) (e : Int) : Option Nat :=
  let c := i.centre * i.unitSize e
  let g := i.gridSize e
  let d := c / g
  let upperIsNear := decide ((d + 1) * g - c ≤ c - d * g)
  match i.contains e d, i.contains e (d + 1) with
  | true, true => some (if upperIsNear then d + 1 else d)
  | true, false => some d
  | false, true => some (d + 1)
  | false, false => none

/-- The first grid with a point in the interval, going down from `10 ^ e` over at most `steps`
grids, and that point. -/
def search (i : Interval) : Nat → Int → Decimal
  | 0, e => ⟨(i.nearest? e).getD 0, e⟩
  | steps + 1, e =>
    match i.nearest? e with
    | some d => ⟨d, e⟩
    | none => i.search steps (e - 1)

/-- A power of ten that no decimal of the interval reaches, and at most three steps above one that
some decimal does. It is read off the binary length of the centre, as `30103 / 100000` is just
above the logarithm of two. -/
def ceiling (i : Interval) : Int :=
  (i.unit + (i.centre.log2 + 1 : Nat)) * 30103 / 100000 + 2

end Interval

/-- The shortest decimal that reads back as the absolute value of a finite number other than zero.
Twenty-four grids are enough: the interval is wider than a unit in the seventeenth digit. -/
def shortest (x : Binary64) : Decimal :=
  x.interval.search 24 x.interval.ceiling

/-- The plain text of a number: the shortest decimal that reads back, with a point and no exponent.
Zero keeps its sign. -/
def plainText (x : Binary64) : List Char :=
  if x.isNaN then ['N', 'a', 'N']
  else
    let body :=
      if !x.isFinite then ['i', 'n', 'f']
      else if x.isZero then ['0']
      else x.shortest.positional
    if x.negative then '-' :: body else body

/-- The exact digits of a whole number. -/
def wholeText (x : Binary64) : List Char :=
  let body := Decimal.digits x.floor
  if x.negative then '-' :: body else body

end Binary64

end CapabilityGateway
