import CapabilityGateway.Number.Rounding
import CapabilityGateway.Toml.Reader
import CapabilityGateway.Toml.Value

/-!
# TOML strings, numbers and dates

The values of a TOML document that hold no other values. Integers have 64 bits. A decimal fraction
becomes the nearest binary64 number, and may not be so large that this is positive infinity.
-/

namespace CapabilityGateway

namespace Toml

open Reader

/-! ## Characters -/

def isBlank (c : Char) : Bool := c == ' ' || c == '\t'

/-- A character that text may contain: no control character but the tab. -/
def isPlain (c : Char) : Bool := c == '\t' || decide (0x20 ≤ c.toNat) && c.toNat != 0x7F

/-- A plain character that needs no escape in a basic string. -/
def isBasic (c : Char) : Bool := isPlain c && c != '"' && c != '\\'

/-- A plain character of a literal string. -/
def isLiteral (c : Char) : Bool := isPlain c && c != '\''

def blanks : Reader Unit := do
  let _ ← span isBlank

def newline : Reader Unit := either (char '\n') (exactText ['\r', '\n'])

/-! ## Strings -/

/-- The value of a hexadecimal digit. -/
def hexDigit? (c : Char) : Option Nat :=
  if c.isDigit then some (c.toNat - '0'.toNat)
  else if 'a' ≤ c ∧ c ≤ 'f' then some (c.toNat - 'a'.toNat + 10)
  else if 'A' ≤ c ∧ c ≤ 'F' then some (c.toNat - 'A'.toNat + 10)
  else none

def isHexDigit (c : Char) : Bool := (hexDigit? c).isSome

/-- The number with the given digits, most significant first. -/
def ofDigits (base : Nat) (digits : List Char) : Nat :=
  digits.foldl (fun n c => base * n + (hexDigit? c).getD 0) 0

/-- Exactly `n` characters of some kind. -/
def exactly (p : Char → Bool) : Nat → Reader (List Char)
  | 0 => pure []
  | n + 1 => do
    let c ← charOf p
    let cs ← exactly p n
    return c :: cs

/-- The character of a code point given by `n` hexadecimal digits. -/
def codePoint (n : Nat) : Reader Char := do
  let ds ← exactly isHexDigit n
  let k := ofDigits 16 ds
  if k.isValidChar then return Char.ofNat k else fail

/-- What follows a backslash. -/
def escaped : Reader Char := do
  match ← charOf fun _ => true with
  | 'b' => return '\x08'
  | 't' => return '\t'
  | 'n' => return '\n'
  | 'f' => return '\x0c'
  | 'r' => return '\r'
  | '"' => return '"'
  | '\\' => return '\\'
  | 'u' => codePoint 4
  | 'U' => codePoint 8
  | _ => fail

def escape : Reader Char := do
  char '\\'
  escaped

def basicString : Reader String := do
  char '"'
  let cs ← many (either (charOf isBasic) escape)
  char '"'
  return String.ofList cs

def literalString : Reader String := do
  char '\''
  let cs ← span isLiteral
  char '\''
  return String.ofList cs

/-- The line break inside a string, however the document writes it. -/
def lineBreak : Reader (List Char) := do
  newline
  return ['\n']

/-- A backslash at the end of a line, with the blanks and line breaks after it. -/
def continuation : Reader (List Char) := do
  char '\\'
  blanks
  newline
  let _ ← many (either (do let _ ← charOf isBlank) newline)
  return []

/-- One or two quotes that do not end a string of several lines. -/
def innerQuotes (quote : Char) : Reader (List Char) := do
  let qs ← spanOne (· == quote)
  if qs.length ≤ 2 then return qs else fail

/-- The three quotes at the end of a string of several lines, with up to two more before them that
belong to the string. -/
def closingQuotes (quote : Char) : Reader (List Char) := fun s =>
  let n := min (s.takeWhile (· == quote)).length 5
  if 3 ≤ n then some (List.replicate (n - 3) quote, s.drop n) else none

/-- A string of several lines, from its pieces. A line break right after the opening quotes does
not belong to it. -/
def multiline (quote : Char) (piece : Reader (List Char)) : Reader String := do
  exactText [quote, quote, quote]
  let _ ← maybe newline
  let pieces ← many piece
  let last ← closingQuotes quote
  return String.ofList (pieces.flatten ++ last)

def multilineBasic : Reader String :=
  multiline '"'
    (either (spanOne isBasic)
      (either lineBreak
        (either continuation
          (either ((fun c => [c]) <$> escape) (innerQuotes '"')))))

def multilineLiteral : Reader String :=
  multiline '\'' (either (spanOne isLiteral) (either lineBreak (innerQuotes '\'')))

def string : Reader String :=
  either multilineBasic (either basicString (either multilineLiteral literalString))

/-! ## Numbers -/

/-- Digits of some kind, with single underscores between them. -/
def digitsOf (p : Char → Bool) : Reader (List Char) := do
  let c ← charOf p
  let cs ← many (either (charOf p) (do
    char '_'
    charOf p))
  return c :: cs

def sign : Reader (Option Char) := maybe (charOf fun c => c == '+' || c == '-')

/-- The digits of a decimal integer: a zero stands alone. -/
def wholeDigits : Reader (List Char) :=
  either
    (do
      let c ← charOf fun c => c.isDigit && c != '0'
      let cs ← many (either (charOf Char.isDigit) (do
        char '_'
        charOf Char.isDigit))
      return c :: cs)
    (do
      char '0'
      return ['0'])

/-- The integer, if it has 64 bits. -/
def bounded (n : Int) : Reader Value :=
  if -(2 ^ 63 : Nat) ≤ n ∧ n < (2 ^ 63 : Nat) then pure (.integer n) else fail

/-- An integer with the base written before it. -/
def basedInteger (mark : Char) (base : Nat) (p : Char → Bool) : Reader Value := do
  exactText ['0', mark]
  let ds ← digitsOf p
  bounded (ofDigits base ds)

def decimalInteger : Reader Value := do
  let s ← sign
  let ds ← wholeDigits
  let n : Int := ofDigits 10 ds
  bounded (if s = some '-' then -n else n)

def integer : Reader Value :=
  either (basedInteger 'x' 16 isHexDigit)
    (either (basedInteger 'o' 8 fun c => '0' ≤ c ∧ c ≤ '7')
      (either (basedInteger 'b' 2 fun c => c == '0' || c == '1')
        decimalInteger))

def exponentPart : Reader Int := do
  let _ ← charOf fun c => c == 'e' || c == 'E'
  let s ← sign
  let ds ← digitsOf Char.isDigit
  let n : Int := ofDigits 10 ds
  return if s = some '-' then -n else n

/-- The digits after the point. -/
def fractionPart : Reader (List Char) := do
  char '.'
  digitsOf Char.isDigit

/-- A number with a point or an exponent, or with both. -/
def decimalFloat : Reader Value := do
  let s ← sign
  let whole ← wholeDigits
  let (fraction, exponent) ←
    either
      (do
        let f ← fractionPart
        let e ← maybe exponentPart
        return (f, e.getD 0))
      (do
        let e ← exponentPart
        return ([], e))
  let x := Binary64.ofDecimal (s = some '-') (ofDigits 10 (whole ++ fraction))
    (exponent - fraction.length)
  if x = Binary64.infinity false then fail else return .float x

/-- Infinity and NaN, which are written as words. -/
def namedFloat : Reader Value := do
  let s ← sign
  let negative : Bool := s = some '-'
  either
    (do
      exactText ['i', 'n', 'f']
      return .float (.infinity negative))
    (do
      exactText ['n', 'a', 'n']
      return .float .nan)

def boolean : Reader Value :=
  either
    (do
      exactText ['t', 'r', 'u', 'e']
      return .boolean true)
    (do
      exactText ['f', 'a', 'l', 's', 'e']
      return .boolean false)

/-! ## Dates and times -/

/-- A number of exactly `n` digits between two bounds. -/
def numberWithin (n low high : Nat) : Reader Nat := do
  let ds ← exactly Char.isDigit n
  let k := ofDigits 10 ds
  if low ≤ k ∧ k ≤ high then return k else fail

def isLeapYear (year : Nat) : Bool := year % 4 == 0 && (year % 100 != 0 || year % 400 == 0)

def daysOf (year month : Nat) : Nat :=
  if month = 2 then (if isLeapYear year then 29 else 28)
  else if month = 4 ∨ month = 6 ∨ month = 9 ∨ month = 11 then 30
  else 31

def date : Reader Unit := do
  let year ← numberWithin 4 0 9999
  char '-'
  let month ← numberWithin 2 1 12
  char '-'
  let _ ← numberWithin 2 1 (daysOf year month)

/-- A time of day. A minute may have a leap second. -/
def time : Reader Unit := do
  let _ ← numberWithin 2 0 23
  char ':'
  let _ ← numberWithin 2 0 59
  char ':'
  let _ ← numberWithin 2 0 60
  let _ ← maybe (do
    char '.'
    spanOne Char.isDigit)

/-- The distance from universal time. -/
def offset : Reader Unit :=
  either (do let _ ← charOf fun c => c == 'Z' || c == 'z')
    (do
      let _ ← charOf fun c => c == '+' || c == '-'
      let _ ← numberWithin 2 0 23
      char ':'
      let _ ← numberWithin 2 0 59)

def datetime : Reader Value := do
  either
    (do
      date
      let _ ← maybe (do
        let _ ← charOf fun c => c == 'T' || c == 't' || c == ' '
        time
        maybe offset))
    time
  return .datetime

/-- A value that holds no other values. -/
def scalar : Reader Value :=
  either (Value.string <$> string)
    (either boolean
      (either datetime
        (either decimalFloat
          (either namedFloat integer))))

end Toml

end CapabilityGateway
