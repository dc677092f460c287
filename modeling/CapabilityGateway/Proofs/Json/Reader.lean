import CapabilityGateway.Proofs.Json.Number

/-!
# Reading JSON

What a JSON text stands for, with its numbers kept as they are written, and a strict reader for such
texts. It takes blanks between tokens, every escape and pairs of surrogates, and refuses raw control
characters in strings, lone surrogates, commas before a closing bracket, numbers outside of the
grammar and anything after the value. It makes no use of how texts are written here.

Every step of the reader takes at least one character, so the length of the text bounds their
number.
-/

namespace CapabilityGateway

namespace Json

/-- A number as it is written. -/
structure Numeral where
  text : List Char
  valid : isNumber text = true
  deriving DecidableEq

/-- What a JSON text stands for. -/
inductive Datum where
  | null
  | bool (b : Bool)
  | number (t : Numeral)
  | string (s : String)
  | array (elements : List Datum)
  | object (members : List (String × Datum))

/-- The members of every object in it have distinct names. -/
inductive Datum.NamesDistinct : Datum → Prop
  | null : NamesDistinct .null
  | bool (b : Bool) : NamesDistinct (.bool b)
  | number (t : Numeral) : NamesDistinct (.number t)
  | string (s : String) : NamesDistinct (.string s)
  | array {ds : List Datum} (elements : ∀ d ∈ ds, NamesDistinct d) : NamesDistinct (.array ds)
  | object {ms : List (String × Datum)} (distinct : (ms.map Prod.fst).Nodup)
      (members : ∀ m ∈ ms, NamesDistinct m.2) : NamesDistinct (.object ms)

/-! ## Strings -/

/-- The character that a letter stands for after a backslash. -/
def unescaped? (c : Char) : Option Char :=
  match c with
  | '"' => some '"'
  | '\\' => some '\\'
  | '/' => some '/'
  | 'b' => some '\x08'
  | 'f' => some '\x0c'
  | 'n' => some '\n'
  | 'r' => some '\r'
  | 't' => some '\t'
  | _ => none

def hexValue? (c : Char) : Option Nat :=
  if '0' ≤ c ∧ c ≤ '9' then some (c.toNat - 48)
  else if 'a' ≤ c ∧ c ≤ 'f' then some (c.toNat - 87)
  else if 'A' ≤ c ∧ c ≤ 'F' then some (c.toNat - 55)
  else none

/-- Four hexadecimal digits. -/
def readUnit : List Char → Option (Nat × List Char)
  | a :: b :: c :: d :: rest => do
    let a ← hexValue? a
    let b ← hexValue? b
    let c ← hexValue? c
    let d ← hexValue? d
    return (((a * 16 + b) * 16 + c) * 16 + d, rest)
  | _ => none

/-- The character of a `\u` escape, after those two characters. One beyond U+FFFF takes a pair of
escapes. -/
def readUnicode (cs : List Char) : Option (Char × List Char) := do
  let (high, rest) ← readUnit cs
  if high < 0xD800 ∨ 0xDFFF < high then return (Char.ofNat high, rest)
  match rest with
  | '\\' :: 'u' :: rest =>
    let (low, rest) ← readUnit rest
    if high < 0xDC00 ∧ 0xDC00 ≤ low ∧ low ≤ 0xDFFF then
      return (Char.ofNat (0x10000 + (high - 0xD800) * 0x400 + (low - 0xDC00)), rest)
    else none
  | _ => none

/-- One character of a string. -/
def readChar : List Char → Option (Char × List Char)
  | '\\' :: 'u' :: rest => readUnicode rest
  | '\\' :: c :: rest => (unescaped? c).map (·, rest)
  | c :: rest => if c = '"' ∨ c = '\\' ∨ c.toNat < 0x20 then none else some (c, rest)
  | [] => none

/-- The characters of a string up to and without the closing quote. -/
def readString : Nat → List Char → Option (List Char × List Char)
  | 0, _ => none
  | _ + 1, '"' :: rest => some ([], rest)
  | n + 1, cs => do
    let (c, rest) ← readChar cs
    let (s, rest) ← readString n rest
    return (c :: s, rest)

def isSpace (c : Char) : Bool := [' ', '\t', '\n', '\r'].contains c

/-- The text after the blanks in front. -/
def skip (cs : List Char) : List Char := cs.dropWhile isSpace

/-- The name of a member and the colon after it. -/
def readName (n : Nat) (cs : List Char) : Option (String × List Char) :=
  match skip cs with
  | '"' :: rest => do
    let (name, rest) ← readString n rest
    match skip rest with
    | ':' :: rest => return (String.ofList name, rest)
    | _ => none
  | _ => none

/-! ## Values -/

/-- A fixed word. -/
def readWord (word : List Char) (d : Datum) (cs : List Char) : Option (Datum × List Char) :=
  if word.isPrefixOf cs then some (d, cs.drop word.length) else none

def readNumber (cs : List Char) : Option (Datum × List Char) :=
  if h : isNumber (cs.takeWhile isNumberChar) = true then
    some (.number ⟨_, h⟩, cs.dropWhile isNumberChar)
  else none

mutual

def readValue : Nat → List Char → Option (Datum × List Char)
  | 0, _ => none
  | n + 1, cs =>
    match skip cs with
    | [] => none
    | c :: rest =>
      if c = '"' then do
        let (s, rest) ← readString n rest
        return (.string (String.ofList s), rest)
      else if c = '[' then
        if (skip rest).head? = some ']' then some (.array [], (skip rest).tail)
        else do
          let (ds, rest) ← readElements n rest
          return (.array ds, rest)
      else if c = '\x7b' then
        if (skip rest).head? = some '\x7d' then some (.object [], (skip rest).tail)
        else do
          let (ms, rest) ← readMembers n rest
          return (.object ms, rest)
      else if c = 'n' then readWord "null".toList .null (c :: rest)
      else if c = 't' then readWord "true".toList (.bool true) (c :: rest)
      else if c = 'f' then readWord "false".toList (.bool false) (c :: rest)
      else readNumber (c :: rest)

/-- The elements of an array, of which there is at least one, and the closing bracket. -/
def readElements : Nat → List Char → Option (List Datum × List Char)
  | 0, _ => none
  | n + 1, cs => do
    let (d, rest) ← readValue n cs
    match skip rest with
    | ',' :: rest => do
      let (ds, rest) ← readElements n rest
      return (d :: ds, rest)
    | ']' :: rest => return ([d], rest)
    | _ => none

/-- The members of an object, of which there is at least one, and the closing brace. -/
def readMembers : Nat → List Char → Option (List (String × Datum) × List Char)
  | 0, _ => none
  | n + 1, cs => do
    let (name, rest) ← readName n cs
    let (d, rest) ← readValue n rest
    match skip rest with
    | ',' :: rest => do
      let (ms, rest) ← readMembers n rest
      return ((name, d) :: ms, rest)
    | '\x7d' :: rest => return ([(name, d)], rest)
    | _ => none

end

/-- What a text stands for, if it is a JSON text. -/
def read? (cs : List Char) : Option Datum :=
  match readValue (cs.length + 1) cs with
  | some (d, rest) => if skip rest = [] then some d else none
  | none => none

end Json

end CapabilityGateway
