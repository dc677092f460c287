import CapabilityGateway.Toml.Value

/-!
# Building a TOML document

A document is put together statement by statement. While this goes on, it matters how a table came
to be: by a header of its own, on the way of a header to a table inside it, or on the way of a
dotted key. A header may take over a table of the second kind once, a dotted key may go through
tables of the second and third kind, and nothing may be added to a value. A table that a header
takes over moves to the end of the table around it.
-/

namespace CapabilityGateway

namespace Toml

/-- How a table came to be. -/
inductive Origin where
  /-- A header names it. -/
  | header
  /-- A header goes through it. -/
  | passed
  /-- A dotted key goes through it. -/
  | dotted
  deriving DecidableEq

/-- Part of an unfinished document. -/
inductive Tree where
  | closed (v : Value)
  | table (origin : Origin) (entries : List (String × Tree))
  /-- Tables that share a header in double brackets. -/
  | tables (elements : List (List (String × Tree)))

namespace Tree

/-- The entries of an unfinished table. -/
abbrev Entries := Dictionary Tree

/-- Changes the table at the end of a path. Tables that are missing on the way are made, of origin
`origin`. A path that is a dotted key does not go through tables with a header. -/
def descend (origin : Origin) (change : Origin → Entries → Option Entries) :
    List String → Origin → Entries → Option Entries
  | [], here, es => change here es
  | key :: path, _, es =>
    match Dictionary.get? key es with
    | none => do
      let inner ← descend origin change path origin []
      return Dictionary.put key (.table origin inner) es
    | some (.table here inner) =>
      if origin = .dotted ∧ here = .header then none
      else do
        let inner ← descend origin change path here inner
        return Dictionary.put key (.table here inner) es
    | some (.tables elements) => do
      let last ← elements.getLast?
      let last ← descend origin change path .header last
      return Dictionary.put key (.tables (elements.dropLast ++ [last])) es
    | some (.closed _) => none

/-- Adds an entry at the end of a dotted key. A key without dots belongs to the table at hand, one
with dots to a table that dotted keys have made. -/
def assign (path : List String) (key : String) (v : Value) : Origin → Entries → Option Entries :=
  descend .dotted
    (fun here es =>
      if decide (here = .dotted) = path.isEmpty then none
      else if (Dictionary.get? key es).isSome then none
      else some (Dictionary.put key (.closed v) es))
    path

/-- Opens the table that a header names. -/
def openTable (path : List String) (key : String) : Entries → Option Entries :=
  descend .passed
    (fun _ es =>
      match Dictionary.get? key es with
      | none => some (Dictionary.put key (.table .header []) es)
      | some (.table .passed inner) =>
        some (Dictionary.put key (.table .header inner) (Dictionary.erase key es))
      | some _ => none)
    path .header

/-- Opens one more table under a header in double brackets. -/
def openElement (path : List String) (key : String) : Entries → Option Entries :=
  descend .passed
    (fun _ es =>
      match Dictionary.get? key es with
      | none => some (Dictionary.put key (.tables [[]]) es)
      | some (.tables elements) => some (Dictionary.put key (.tables (elements ++ [[]])) es)
      | some _ => none)
    path .header

/-! ## Finished values -/

mutual

def value : Tree → Value
  | .closed v => v
  | .table _ es => .table (entryValues es)
  | .tables elements => .array (elementValues elements)

def entryValues : List (String × Tree) → List (String × Value)
  | [] => []
  | (key, t) :: rest => (key, value t) :: entryValues rest

def elementValues : List (List (String × Tree)) → List Value
  | [] => []
  | es :: rest => .table (entryValues es) :: elementValues rest

end

end Tree

/-- A dotted key: the keys on the way and the last one. -/
structure DottedKey where
  path : List String
  last : String

/-- One line of a document that says something. -/
inductive Statement where
  | header (key : DottedKey)
  | elementHeader (key : DottedKey)
  | assignment (key : DottedKey) (v : Value)

/-- A document up to some statement: its entries, and the table that assignments go to. -/
structure Document where
  entries : Tree.Entries
  current : List String

namespace Document

def empty : Document := ⟨[], []⟩

/-- The document after one more statement, unless the statement is at odds with it. -/
def add (d : Document) : Statement → Option Document
  | .header key => do
    let es ← Tree.openTable key.path key.last d.entries
    return ⟨es, key.path ++ [key.last]⟩
  | .elementHeader key => do
    let es ← Tree.openElement key.path key.last d.entries
    return ⟨es, key.path ++ [key.last]⟩
  | .assignment key v => do
    let es ← Tree.descend .passed (Tree.assign key.path key.last v) d.current .header d.entries
    return { d with entries := es }

end Document

/-- The table that some statements make. -/
def tableOf? (statements : List Statement) : Option Table := do
  let d ← statements.foldlM Document.add .empty
  return Tree.entryValues d.entries

/-- The inline table that some assignments make. -/
def inlineTableOf? (assignments : List (DottedKey × Value)) : Option Value := do
  let es ← assignments.foldlM (fun es a => Tree.assign a.1.path a.1.last a.2 .header es) []
  return .table (Tree.entryValues es)

end Toml

end CapabilityGateway
