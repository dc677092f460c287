/-!
# Decimal numbers and their layouts

A decimal number is a whole coefficient times a power of ten. Two layouts write one down:
`Decimal.positional` with a point and as many zeros as it takes, and `Decimal.scientific` with one
digit before the point and the power of ten after an `e`.
-/

namespace CapabilityGateway

/-- The number `coefficient * 10 ^ exponent`. -/
structure Decimal where
  coefficient : Nat
  exponent : Int
  deriving DecidableEq

namespace Decimal

/-- The decimal digits of a natural number, most significant first and without leading zeros. -/
def digits (n : Nat) : List Char := Nat.toDigits 10 n

def zeros (n : Nat) : List Char := List.replicate n '0'

/-- The layout with a point and no exponent. -/
def positional (d : Decimal) : List Char :=
  let ds := digits d.coefficient
  let places := (-d.exponent).toNat
  if 0 ≤ d.exponent then ds ++ zeros d.exponent.toNat
  else if places < ds.length then
    ds.take (ds.length - places) ++ '.' :: ds.drop (ds.length - places)
  else '0' :: '.' :: (zeros (places - ds.length) ++ ds)

/-- The power of ten of the first digit. -/
def leadingExponent (d : Decimal) : Int :=
  d.exponent + ((digits d.coefficient).length - 1 : Nat)

/-- An integer with its sign always written. -/
def signed (n : Int) : List Char :=
  (if n < 0 then '-' else '+') :: digits n.natAbs

/-- The layout with one digit before the point and a signed exponent. -/
def scientific (d : Decimal) : List Char :=
  let mantissa :=
    match digits d.coefficient with
    | [] => []
    | [c] => [c]
    | c :: cs => c :: '.' :: cs
  mantissa ++ 'e' :: signed d.leadingExponent

end Decimal

end CapabilityGateway
