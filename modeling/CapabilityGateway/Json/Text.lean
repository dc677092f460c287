/-!
# JSON text

The tokens of a JSON text and the ways to put texts together: a quoted string, an array and an
object. No blank is ever written.

A quoted string escapes the quote, the backslash and the characters below U+0020, and copies every
other character.
-/

namespace CapabilityGateway

namespace Json

/-- Two lower-case hexadecimal digits. -/
def hexPair (n : Nat) : List Char :=
  [Nat.digitChar (n / 16 % 16), Nat.digitChar (n % 16)]

/-- One character inside a quoted string. -/
def escape (c : Char) : List Char :=
  match c with
  | '"' => ['\\', '"']
  | '\\' => ['\\', '\\']
  | '\x08' => ['\\', 'b']
  | '\x0c' => ['\\', 'f']
  | '\n' => ['\\', 'n']
  | '\r' => ['\\', 'r']
  | '\t' => ['\\', 't']
  | c => if c.toNat < 0x20 then ['\\', 'u', '0', '0'] ++ hexPair c.toNat else [c]

def quote (s : List Char) : List Char := '"' :: (s.flatMap escape ++ ['"'])

/-- Texts with a separator between each two. -/
def separated (separator : Char) : List (List Char) → List Char
  | [] => []
  | [t] => t
  | t :: u :: ts => t ++ separator :: separated separator (u :: ts)

def array (elements : List (List Char)) : List Char := '[' :: (separated ',' elements ++ [']'])

/-- A member of an object, from its name and the text of its value. -/
def member (name : List Char) (value : List Char) : List Char := quote name ++ ':' :: value

def object (members : List (List Char)) : List Char :=
  '\x7b' :: (separated ',' members ++ ['\x7d'])

end Json

end CapabilityGateway
