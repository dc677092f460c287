import CapabilityGateway.Guest.Value
import CapabilityGateway.Json.Text
import CapabilityGateway.Number.Rounding
import CapabilityGateway.Number.Shortest

/-!
# Console lines

The text of a value on the console. A value is written as JSON as far as it has such a form.
Undefined and functions have none: inside an array they become `null`, inside an object their
property is left out, and on their own they are written `undefined` and `[Function]`. Numbers that
are not finite become `null` inside other values and are written by name on their own.

A line of the console is its arguments with a space between each two, strings as they are.
-/

namespace CapabilityGateway

namespace Binary64

/-- The number nearest to a millionth. -/
def millionth : Binary64 := ofRatio false 1 (10 ^ 6)

/-- The number `10 ^ 21`. -/
def sextillion : Binary64 := ofRatio false (10 ^ 21) 1

/-- The JSON text of a number. From a millionth up to `10 ^ 21` it is written with a point, outside
of that with an exponent. A number that is not finite is written as null, and both zeros as `0`. -/
def jsonText (n : Binary64) : List Char :=
  if !n.isFinite then "null".toList
  else if n.isZero then ['0']
  else
    let d := n.shortest
    let body :=
      if millionth.magnitude ≤ n.magnitude ∧ n.magnitude < sextillion.magnitude then d.positional
      else d.scientific
    if n.negative then '-' :: body else body

/-- The name of a number that is not finite. -/
def nonFiniteName (n : Binary64) : List Char :=
  if n.isNaN then "NaN".toList
  else if n.negative then "-Infinity".toList
  else "Infinity".toList

end Binary64

namespace Value

mutual

/-- The JSON text of a value, if it has one. -/
def json? : Value → Option (List Char)
  | .undefined => none
  | .null => some "null".toList
  | .bool b => some (if b then "true".toList else "false".toList)
  | .number n => some n.jsonText
  | .string s => some (Json.quote s.toList)
  | .array _ vs => some (Json.array (jsonElements vs))
  | .object _ ps => some (Json.object (jsonMembers ps))
  | .function _ => none

/-- The texts of the elements of an array. -/
def jsonElements : List Value → List (List Char)
  | [] => []
  | v :: vs => (json? v).getD "null".toList :: jsonElements vs

/-- The texts of the properties of an object that have one. -/
def jsonMembers : List (String × Value) → List (List Char)
  | [] => []
  | (key, v) :: ps =>
    match json? v with
    | some t => Json.member key.toList t :: jsonMembers ps
    | none => jsonMembers ps

end

/-- The text of a value on its own. -/
def stringifyChars (v : Value) : List Char :=
  match v with
  | .number n => if n.isFinite then n.jsonText else n.nonFiniteName
  | .function _ => "[Function]".toList
  | v => (json? v).getD "undefined".toList

def stringify (v : Value) : String := String.ofList v.stringifyChars

/-- The text of an argument in a console line. -/
def lineChars : Value → List Char
  | .string s => s.toList
  | v => v.stringifyChars

/-- The console line of some arguments. -/
def line (arguments : List Value) : String :=
  String.ofList (Json.separated ' ' (arguments.map lineChars))

end Value

end CapabilityGateway
