import CapabilityGateway.Files.Path

/-!
# File trees

Files and directories by their location, and reading a file by its path. A location lists the names
on the way down from the root, the innermost first, so the enclosing directory is its tail. Paths
are followed one segment at a time, and every segment needs a directory to start from: a path that
goes through a file, or ends with a slash after one, leads nowhere.
-/

namespace CapabilityGateway

/-- The names on the way to a place, innermost first. -/
abbrev Location := List String

inductive FileNode where
  | directory
  | file (content : ByteArray)

/-- Why a file cannot be read as text. -/
inductive ReadFailure where
  | missing
  | isDirectory
  /-- The path goes through a file. -/
  | notDirectory
  | notText
  deriving DecidableEq

structure FileTree where
  /-- What lies at a location below the root. -/
  node : Location → Option FileNode
  /-- Where relative paths start. -/
  workingDirectory : Location

namespace FileTree

/-- What lies at a location; the root is a directory. -/
def at? (t : FileTree) : Location → Option FileNode
  | [] => some .directory
  | location => t.node location

/-- The location that a segment leads to. -/
def step (location : Location) (segment : List Char) : Location :=
  if Path.isFiller segment then location
  else if segment = ['.', '.'] then location.tail
  else String.ofList segment :: location

/-- Follows segments from a location. -/
def walk (t : FileTree) : Location → List (List Char) → Except ReadFailure Location
  | location, [] => .ok location
  | location, s :: rest =>
    match t.at? location with
    | some .directory => walk t (step location s) rest
    | some (.file _) => .error .notDirectory
    | none => .error .missing

/-- Where a path starts. -/
def start (t : FileTree) (p : Path) : Location :=
  if p.anchor = ['/'] then [] else t.workingDirectory

/-- What a path leads to, and where. The empty path leads nowhere. -/
def resolve (t : FileTree) (p : Path) : Except ReadFailure (Location × FileNode) :=
  if p.text = "" then .error .missing
  else
    match t.walk (t.start p) p.segments with
    | .error e => .error e
    | .ok location =>
      match t.at? location with
      | some n => .ok (location, n)
      | none => .error .missing

/-- The path leads to something. -/
def pathExists (t : FileTree) (p : Path) : Bool := (t.resolve p).isOk

/-- The text of the file at a path. -/
def readText (t : FileTree) (p : Path) : Except ReadFailure String :=
  match t.resolve p with
  | .error e => .error e
  | .ok (_, .directory) => .error .isDirectory
  | .ok (_, .file content) =>
    match String.fromUTF8? content with
    | some s => .ok s
    | none => .error .notText

/-! ## Changing a tree -/

/-- The location that a path spells out, whether or not something lies there. -/
def locate (t : FileTree) (p : Path) : Location := p.segments.foldl step (t.start p)

/-- The tree with a node put at a location, or with nothing left there. -/
def putNode (t : FileTree) (location : Location) (n : Option FileNode) : FileTree :=
  { t with node := fun l => if l = location then n else t.node l }

/-- The tree with a directory at a location if there was nothing. -/
def makeDirectoryAt (t : FileTree) (location : Location) : FileTree :=
  match t.at? location with
  | none => t.putNode location (some .directory)
  | some _ => t

/-- The tree with a directory wherever segments lead through nothing on the way from a location. -/
def makeWay (t : FileTree) : Location → List (List Char) → FileTree
  | _, [] => t
  | location, s :: rest =>
    let location := step location s
    (t.makeDirectoryAt location).makeWay location rest

/-- The tree with a directory at a path, and directories on the way to it. -/
def makeDirectory (t : FileTree) (p : Path) : FileTree := t.makeWay (t.start p) p.segments

/-- The tree with a file at a path, and directories on the way to it. -/
def write (t : FileTree) (p : Path) (content : ByteArray) : FileTree :=
  let t :=
    match p.parent? with
    | some directory => t.makeDirectory directory
    | none => t
  t.putNode (t.locate p) (some (.file content))

/-- The tree that holds nothing but its working directory. -/
def empty (workingDirectory : Location) : FileTree :=
  ({ node := fun _ => none, workingDirectory := workingDirectory } : FileTree).makeWay []
    (workingDirectory.reverse.map String.toList)

end FileTree

end CapabilityGateway
