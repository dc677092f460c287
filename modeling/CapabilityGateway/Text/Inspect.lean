import CapabilityGateway.Text.Quoted

/-!
# Inspection text

The one-line form in which structured things are shown for inspection: a record as its name and
its fields in braces, a sequence in brackets, and a wrapped thing in parentheses after its name.
-/

namespace CapabilityGateway

namespace Inspect

def joined (parts : List String) : String := String.intercalate ", " parts

/-- A record with at least one field. -/
def record (name : String) (fields : List (String × String)) : String :=
  name ++ " \x7b " ++ joined (fields.map fun f => f.1 ++ ": " ++ f.2) ++ " \x7d"

def sequence (items : List String) : String := "[" ++ joined items ++ "]"

/-- A thing with one unnamed part. -/
def wrapped (name part : String) : String := name ++ "(" ++ part ++ ")"

def optional (part : Option String) : String :=
  match part with
  | some t => wrapped "Some" t
  | none => "None"

def strings (items : List String) : String := sequence (items.map Text.quoted)

def bool (b : Bool) : String := if b then "true" else "false"

end Inspect

end CapabilityGateway
