import CapabilityGateway.Text.Printable

/-!
# Quoted text

The quoted form of a text for inspection: between double quotes, with an escape for the quote, the
backslash and the common controls, a code point in braces for every other character that does not
show on its own, and everything else as it is.
-/

namespace CapabilityGateway

namespace Text

/-- A character by its code point, `\u` and the hexadecimal digits in braces. -/
def codePointEscape (c : Char) : List Char :=
  ['\\', 'u', '\x7b'] ++ Nat.toDigits 16 c.toNat ++ ['\x7d']

/-- One character inside a quoted text. -/
def quotedChar (c : Char) : List Char :=
  match c with
  | '\x00' => ['\\', '0']
  | '\t' => ['\\', 't']
  | '\r' => ['\\', 'r']
  | '\n' => ['\\', 'n']
  | '"' => ['\\', '"']
  | '\\' => ['\\', '\\']
  | c => if isVisible c then [c] else codePointEscape c

/-- The quoted form of a text. -/
def quoted (s : String) : String :=
  String.ofList ('"' :: (s.toList.flatMap quotedChar ++ ['"']))

end Text

end CapabilityGateway
