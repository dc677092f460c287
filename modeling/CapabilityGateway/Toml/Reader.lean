/-!
# Reading text

A reader takes what it reads from the front of a text, or fails. Readers are put together in
sequence, as alternatives and by repetition. Repeating a reader tries it at most once for every
character that is left, so repetition always ends.
-/

namespace CapabilityGateway

namespace Toml

/-- Reads something from the front of a text. -/
abbrev Reader (α : Type) := StateT (List Char) Option α

namespace Reader

variable {α β : Type}

/-- Nothing can be read. -/
def fail : Reader α := fun _ => none

/-- A character of some kind. -/
def charOf (p : Char → Bool) : Reader Char
  | c :: rest => if p c then some (c, rest) else none
  | [] => none

def char (c : Char) : Reader Unit
  | d :: rest => if d = c then some ((), rest) else none
  | [] => none

/-- The given characters, one after another. -/
def exactText : List Char → Reader Unit
  | [] => pure ()
  | c :: cs => do
    char c
    exactText cs

/-- The characters of some kind up to the first that is not. -/
def span (p : Char → Bool) : Reader (List Char) := fun s => some (s.takeWhile p, s.dropWhile p)

/-- At least one character of some kind. -/
def spanOne (p : Char → Bool) : Reader (List Char) := do
  let c ← charOf p
  let cs ← span p
  return c :: cs

/-- What the first reader reads, or else what the second reads. -/
def either (p q : Reader α) : Reader α := fun s =>
  match p s with
  | some r => some r
  | none => q s

/-- What the reader reads, if it can. -/
def maybe (p : Reader α) : Reader (Option α) := either (some <$> p) (pure none)

/-- The text is at its end. -/
def atEnd : Reader Unit
  | [] => some ((), [])
  | _ :: _ => none

/-- What the reader reads again and again, at most `n` times. -/
def upTo (p : Reader α) : Nat → Reader (List α)
  | 0 => pure []
  | n + 1 => fun s =>
    match p s with
    | some (a, rest) =>
      match upTo p n rest with
      | some (as, rest) => some (a :: as, rest)
      | none => none
    | none => some ([], s)

/-- What the reader reads again and again. -/
def many (p : Reader α) : Reader (List α) := fun s => upTo p s.length s

/-- One or more readings with a separator between each two. -/
def separatedBy (p : Reader α) (separator : Reader β) : Reader (List α) := do
  let a ← p
  let as ← many (do
    let _ ← separator
    p)
  return a :: as

end Reader

end Toml

end CapabilityGateway
