import CapabilityGateway.Guest.Value

/-!
# Equality of values

Two relations. `Value.eq` compares numbers as numbers and arrays by their elements. `Value.same`
asks whether two values can be told apart at all: NaN is the same as NaN, the two zeros differ, and
arrays are the same only by identity. Objects and functions are compared by identity in both.
-/

namespace CapabilityGateway

namespace Value

mutual

/-- Equality, with arrays compared by content. -/
def eq : Value → Value → Bool
  | .undefined, .undefined => true
  | .null, .null => true
  | .bool a, .bool b => a == b
  | .number a, .number b => a.eq b
  | .string a, .string b => a == b
  | .array _ xs, .array _ ys => eqAll xs ys
  | .object i _, .object j _ => i == j
  | .function f, .function g => f.identity == g.identity
  | _, _ => false

/-- Equality of lists, element by element. -/
def eqAll : List Value → List Value → Bool
  | [], [] => true
  | x :: xs, y :: ys => eq x y && eqAll xs ys
  | _, _ => false

end

/-- Sameness. -/
def same : Value → Value → Bool
  | .number a, .number b => a.same b
  | .array i _, .array j _ => i == j
  | a, b => eq a b

end Value

end CapabilityGateway
