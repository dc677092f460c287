/-!
# Paths

A path is a text. Its segments are what lies between the slashes; an empty segment and a segment `.`
stand for nothing, except that a leading `.` is kept as the anchor of the path, as a leading slash
is. Joining a name keeps the text in front of it as it is, and the parent of a path is found in the
text alone.
-/

namespace CapabilityGateway

structure Path where
  text : String
  deriving DecidableEq

namespace Path

/-- The segments of a text. -/
def splitSlash : List Char → List (List Char)
  | [] => [[]]
  | c :: cs =>
    if c = '/' then [] :: splitSlash cs
    else
      match splitSlash cs with
      | s :: ss => (c :: s) :: ss
      | [] => [[c]]

/-- The text with the given segments. -/
def joinSlash : List (List Char) → List Char
  | [] => []
  | [s] => s
  | s :: t :: ss => s ++ '/' :: joinSlash (t :: ss)

/-- A segment that stands for nothing. -/
def isFiller (s : List Char) : Bool := s == [] || s == ['.']

/-- What the segments start from: the root, the current directory if that is written out, or
nothing. -/
def anchorOf : List Char → List Char
  | '/' :: _ => ['/']
  | ['.'] => ['.']
  | '.' :: '/' :: _ => ['.']
  | _ => []

def anchor (p : Path) : List Char := anchorOf p.text.toList

/-- The segments after the anchor. -/
def segments (p : Path) : List (List Char) := splitSlash (p.text.toList.drop p.anchor.length)

/-- The path without its last segment that stands for something. The anchor is never cut, but the
current directory has the empty path as its parent. -/
def parent? (p : Path) : Option Path :=
  match p.segments.reverse.dropWhile isFiller with
  | _ :: rest =>
    some ⟨String.ofList (p.anchor ++ joinSlash (rest.dropWhile isFiller).reverse)⟩
  | [] => if p.anchor = ['.'] then some ⟨""⟩ else none

/-- The path of a relative name in the directory of a path. -/
def join (p : Path) (name : String) : Path :=
  match p.text.toList.getLast? with
  | none => ⟨name⟩
  | some '/' => ⟨p.text ++ name⟩
  | some _ => ⟨p.text ++ "/" ++ name⟩

/-- The path and its parents upwards, at most `n` of them. -/
def upwards : Nat → Path → List Path
  | 0, p => [p]
  | n + 1, p =>
    p ::
      match p.parent? with
      | some q => upwards n q
      | none => []

/-- The path and all its parents, nearest first. Every parent is a shorter text. -/
def ancestors (p : Path) : List Path := upwards p.text.length p

end Path

end CapabilityGateway
