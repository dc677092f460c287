import CapabilityGateway.Toml.Scalar
import CapabilityGateway.Toml.Tree

/-!
# TOML documents

Reading a whole document: keys, arrays, inline tables, headers and assignments, one statement to a
line. `Toml.parse?` gives the table of a text, or nothing when the text is not a TOML document.

Arrays and inline tables are nested less than eighty deep, and a dotted key has fewer than eighty
parts.
-/

namespace CapabilityGateway

namespace Toml

open Reader

/-- The depth that nesting does not reach. -/
def depthLimit : Nat := 80

/-! ## Keys -/

/-- A character of a key without quotes. -/
def isKeyChar (c : Char) : Bool := c.isAlphanum || c == '_' || c == '-'

def simpleKey : Reader String :=
  either (String.ofList <$> spanOne isKeyChar) (either basicString literalString)

/-- A key with blanks around it. -/
def paddedKey : Reader String := do
  blanks
  let k ← simpleKey
  blanks
  return k

def dottedKey : Reader DottedKey := do
  let ks ← separatedBy paddedKey (char '.')
  match ks.getLast? with
  | some last => if ks.length < depthLimit then return ⟨ks.dropLast, last⟩ else fail
  | none => fail

/-! ## Values -/

def comment : Reader Unit := do
  char '#'
  let _ ← span isPlain

/-- Blanks, line breaks and comments between the elements of an array. A comment ends with its
line. -/
def gap : Reader Unit := do
  let _ ← many (either (do let _ ← charOf isBlank) (either newline (do
    comment
    newline)))

/-- An array, from a reader for its elements. A comma may follow the last one. -/
def arrayOf (element : Reader Value) : Reader Value := do
  char '['
  let vs ← maybe (separatedBy
    (do
      gap
      let v ← element
      gap
      return v)
    (char ','))
  let _ ← if vs.isSome then maybe (char ',') else pure none
  gap
  char ']'
  return .array (vs.getD [])

/-- A key, an equals sign and a value. -/
def assignmentOf (value : Reader Value) : Reader (DottedKey × Value) := do
  let k ← dottedKey
  char '='
  blanks
  let v ← value
  blanks
  return (k, v)

/-- An inline table, from a reader for its values. -/
def inlineTableOf (value : Reader Value) : Reader Value := do
  char '\x7b'
  let es ← maybe (separatedBy (assignmentOf value) (char ','))
  blanks
  char '\x7d'
  match inlineTableOf? (es.getD []) with
  | some t => return t
  | none => fail

/-- A value in which arrays and inline tables are nested at most `depth` deep. -/
def value : Nat → Reader Value
  | 0 => scalar
  | depth + 1 => either scalar (either (arrayOf (value depth)) (inlineTableOf (value depth)))

/-! ## Statements -/

def header : Reader Statement := do
  char '['
  let k ← dottedKey
  char ']'
  return .header k

def elementHeader : Reader Statement := do
  exactText ['[', '[']
  let k ← dottedKey
  exactText [']', ']']
  return .elementHeader k

def assignment : Reader Statement := do
  let (k, v) ← assignmentOf (value (depthLimit - 1))
  return .assignment k v

/-- A line with at most one statement, up to its end or the end of the text. -/
def line : Reader (Option Statement) := do
  blanks
  let s ← maybe (either elementHeader (either header assignment))
  blanks
  let _ ← maybe comment
  either newline atEnd
  return s

/-- The statements of at most `n` lines that are all there is. -/
def statementsUpTo : Nat → List Char → Option (List Statement)
  | _, [] => some []
  | 0, _ :: _ => none
  | n + 1, s =>
    match line s with
    | some (statement, rest) =>
      match statementsUpTo n rest with
      | some statements => some (statement.toList ++ statements)
      | none => none
    | none => none

/-- The text without a byte order mark at its start. -/
def withoutMark : List Char → List Char
  | '\uFEFF' :: rest => rest
  | s => s

/-- The table of a document. -/
def parse? (s : String) : Option Table := do
  let cs := withoutMark s.toList
  let statements ← statementsUpTo cs.length cs
  tableOf? statements

end Toml

end CapabilityGateway
