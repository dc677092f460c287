import CapabilityGateway.Guest.Value
import CapabilityGateway.Number.Shortest
import CapabilityGateway.Text.Inspect

/-!
# Showing values

`Value.display` is the short form for people: strings as they are, whole numbers with all their
digits, objects by their keys. `Value.inspect` is the form for inspection, which names the kind of
each value and quotes strings.
-/

namespace CapabilityGateway

/-- A number on its own: whole numbers with exact digits, others by the shortest decimal. -/
def Binary64.displayText (n : Binary64) : List Char :=
  if n.isWhole then n.wholeText else n.plainText

namespace Value

mutual

def display : Value → String
  | .undefined => "undefined"
  | .null => "null"
  | .bool b => Inspect.bool b
  | .number n => String.ofList n.displayText
  | .string s => s
  | .array _ vs => Inspect.sequence (displayAll vs)
  | .object _ ps => "<object \x7b" ++ Inspect.joined (ps.map Prod.fst) ++ "\x7d>"
  | .function _ => "<native fn>"

def displayAll : List Value → List String
  | [] => []
  | v :: vs => display v :: displayAll vs

end

mutual

def inspect : Value → String
  | .undefined => "Undefined"
  | .null => "Null"
  | .bool b => Inspect.wrapped "Bool" (Inspect.bool b)
  | .number n => Inspect.wrapped "Number" (String.ofList n.plainText)
  | .string s => Inspect.wrapped "String" (Text.quoted s)
  | .array _ vs => Inspect.wrapped "Array" (Inspect.sequence (inspectAll vs))
  | .object _ ps => Inspect.wrapped "Object" (Inspect.strings (ps.map Prod.fst))
  | .function _ => "NativeFunction(<closure>)"

def inspectAll : List Value → List String
  | [] => []
  | v :: vs => inspect v :: inspectAll vs

end

end Value

end CapabilityGateway
