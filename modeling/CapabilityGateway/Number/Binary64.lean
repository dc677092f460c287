/-!
# Binary64 numbers

A number is its 64 bits: a sign, an eleven-bit exponent field and a 52-bit fraction. The bits are
decoded into a significand and a scale, so every question about a number is a question about
natural numbers and no floating-point operation is involved.

* `Binary64.significand`, `Binary64.scale`: a finite number has the absolute value
  `significand * 2 ^ scale`.
* `Binary64.eq`: numeric equality, for which NaN differs from itself and the two zeros agree.
* `Binary64.same`: sameness, for which every NaN is the same and the two zeros differ.
-/

namespace CapabilityGateway

-- Powers of natural numbers are those of the core library, whatever else is in scope.
attribute [instance (2000), default_instance (20000)] instPowNat

/-- A binary64 number, given by its bits. -/
structure Binary64 where
  bits : UInt64
  deriving DecidableEq

namespace Binary64

/-! ## Parts of a number -/

/-- The sign bit is set. -/
def negative (x : Binary64) : Bool := decide (2 ^ 63 ≤ x.bits.toNat)

/-- The bits without the sign. On numbers that are not NaN they are ordered as the absolute
values are. -/
def magnitude (x : Binary64) : Nat := x.bits.toNat % 2 ^ 63

/-- The exponent field, below `2 ^ 11`. -/
def field (x : Binary64) : Nat := x.magnitude / 2 ^ 52

/-- The fraction, below `2 ^ 52`. -/
def fraction (x : Binary64) : Nat := x.magnitude % 2 ^ 52

/-- The number with a given sign and given bits below the sign. -/
def ofMagnitude (negative : Bool) (magnitude : Nat) : Binary64 :=
  ⟨UInt64.ofNat (if negative then 2 ^ 63 + magnitude else magnitude)⟩

/-- The magnitude of infinity: every exponent bit is set and the fraction is zero. -/
def infinityMagnitude : Nat := 2047 * 2 ^ 52

def infinity (negative : Bool) : Binary64 := ofMagnitude negative infinityMagnitude

/-- The quiet NaN with no payload. -/
def nan : Binary64 := ofMagnitude false (infinityMagnitude + 2 ^ 51)

def isNaN (x : Binary64) : Bool := decide (infinityMagnitude < x.magnitude)

def isFinite (x : Binary64) : Bool := decide (x.magnitude < infinityMagnitude)

def isZero (x : Binary64) : Bool := x.magnitude == 0

/-! ## The value of a finite number -/

/-- The significand: the fraction, with the hidden bit in front of it unless the number is
subnormal. -/
def significand (x : Binary64) : Nat :=
  if x.field = 0 then x.fraction else 2 ^ 52 + x.fraction

/-- The power of two that the significand is multiplied by. -/
def scale (x : Binary64) : Int := (max x.field 1 : Nat) - 1075

/-- The absolute value rounded down to a whole number. -/
def floor (x : Binary64) : Nat :=
  x.significand * 2 ^ x.scale.toNat / 2 ^ (-x.scale).toNat

/-- The number is finite and has no fractional part. -/
def isWhole (x : Binary64) : Bool :=
  x.isFinite && x.significand % 2 ^ (-x.scale).toNat == 0

/-! ## Equality -/

/-- Numeric equality. -/
def eq (x y : Binary64) : Bool :=
  !x.isNaN && !y.isNaN && (x.bits == y.bits || x.isZero && y.isZero)

/-- Sameness: the bits agree, or both are NaN. -/
def same (x y : Binary64) : Bool :=
  x.bits == y.bits || x.isNaN && y.isNaN

end Binary64

end CapabilityGateway
