import CapabilityGateway.Number.Binary64

/-!
# Rounding to binary64

The binary64 number nearest to a ratio of natural numbers. A ratio halfway between two numbers
goes to the one with an even significand, and a ratio beyond the largest finite number goes to
infinity.

The magnitude bits count the numbers from zero upwards, so the significand `m` at scale `s` has
the magnitude `(s + 1074) * 2 ^ 52 + m` whether or not it is subnormal, and also when rounding
has carried `m` to `2 ^ 53`.
-/

namespace CapabilityGateway

namespace Binary64

/-- The natural number nearest to `num / den`; halfway goes to the even one. -/
def roundHalfEven (num den : Nat) : Nat :=
  let q := num / den
  let r := num % den
  if 2 * r < den then q
  else if den < 2 * r then q + 1
  else if q % 2 = 0 then q else q + 1

/-- `num / den / 2 ^ s`, as a numerator and a denominator. -/
def scaled (num den : Nat) (s : Int) : Nat × Nat :=
  (num * 2 ^ (-s).toNat, den * 2 ^ s.toNat)

/-- The scale at which `num / den` has a significand of 53 bits, or the least scale when the ratio
is too small for that. -/
def scaleOf (num den : Nat) : Int :=
  let s : Int := (num.log2 : Int) - den.log2 - 53
  let p := scaled num den s
  max (if p.1 / p.2 < 2 ^ 53 then s else s + 1) (-1074)

/-- The magnitude bits of the number nearest to `num / den`. -/
def roundMagnitude (num den : Nat) : Nat :=
  let s := scaleOf num den
  let p := scaled num den s
  min ((s + 1074).toNat * 2 ^ 52 + roundHalfEven p.1 p.2) infinityMagnitude

/-- The number nearest to `num / den`, with the given sign. -/
def ofRatio (negative : Bool) (num den : Nat) : Binary64 :=
  if num = 0 then ofMagnitude negative 0 else ofMagnitude negative (roundMagnitude num den)

/-- The number nearest to `coefficient * 10 ^ exponent`, with the given sign. Powers of ten that
lead beyond every finite number, or below half of every number but zero, are not computed. -/
def ofDecimal (negative : Bool) (coefficient : Nat) (exponent : Int) : Binary64 :=
  if coefficient = 0 ∨ exponent + (coefficient.log2 + 1 : Nat) < -400 then
    ofMagnitude negative 0
  else if 400 < exponent then infinity negative
  else ofRatio negative (coefficient * 10 ^ exponent.toNat) (10 ^ (-exponent).toNat)

def ofNat (n : Nat) : Binary64 := ofRatio false n 1

end Binary64

end CapabilityGateway
