/-!
# Sets of code points

A set of characters is a list of ranges of code points. The properties of characters that decide
trimming, casing and quoting are sets of this kind.
-/

namespace CapabilityGateway

/-- Ranges of code points, first and last included. -/
abbrev CodePoints := List (Nat × Nat)

namespace CodePoints

def contains (s : CodePoints) (c : Char) : Bool :=
  s.any fun r => decide (r.1 ≤ c.toNat ∧ c.toNat ≤ r.2)

end CodePoints

end CapabilityGateway
