import CapabilityGateway.Number.Shortest
import CapabilityGateway.Settings.Gateway
import CapabilityGateway.Text.Inspect
import CapabilityGateway.Toml.Grammar

/-!
# The schema of a configuration file

Reading settings from a TOML document. The document has at most the three sections, and each section
has at most its one field. A section is a table, or an array whose first element stands for the
field. Entries are read in the order of the document, and the first that does not fit is reported.
-/

namespace CapabilityGateway

/-- The sections of a configuration file. -/
inductive SectionName where
  | console
  | network
  | audit
  deriving DecidableEq

namespace SectionName

def key : SectionName → String
  | .console => "console"
  | .network => "network"
  | .audit => "audit"

/-- The one field of the section. -/
def field : SectionName → String
  | .console => "mode"
  | .network | .audit => "enabled"

/-- What a section is called when it is asked for. -/
def title : SectionName → String
  | .console => "struct ConsoleSection"
  | .network => "struct NetworkSection"
  | .audit => "struct AuditSection"

def ofKey? (key : String) : Option SectionName :=
  if key = "console" then some .console
  else if key = "network" then some .network
  else if key = "audit" then some .audit
  else none

end SectionName

/-- What a place in the document asks for. -/
inductive Expected where
  | text
  | truth
  | section (name : SectionName)
  deriving DecidableEq

def Expected.phrase : Expected → String
  | .text => "a string"
  | .truth => "a boolean"
  | .section name => name.title

/-- Why a document does not give settings. -/
inductive Complaint where
  /-- It is not a TOML document. -/
  | notToml
  /-- A key that the section, or the document outside of sections, does not have. -/
  | unknownField (key : String) (within : Option SectionName)
  | wrongType (found : Toml.Value) (expected : Expected)
  /-- An array without elements where a section is asked for. -/
  | emptyArray (name : SectionName)

namespace Complaint

def ticked (s : String) : String := "`" ++ s ++ "`"

/-- A number with a point, even if it is whole. -/
def floatText (x : Binary64) : String :=
  let t := x.plainText
  String.ofList (if x.isFinite && !t.contains '.' then t ++ ['.', '0'] else t)

/-- What was found in place of what was asked for. -/
def foundText : Toml.Value → String
  | .string s => "string " ++ Text.quoted s
  | .integer n => "integer " ++ ticked (toString n)
  | .float x => "floating point " ++ ticked (floatText x)
  | .boolean b => "boolean " ++ ticked (Inspect.bool b)
  | .array _ => "sequence"
  | .datetime | .table _ => "map"

/-- The words of a complaint. -/
def reason : Complaint → String
  | .notToml => "syntax"
  | .unknownField key none =>
    "unknown field " ++ ticked key ++ ", expected one of " ++
      String.intercalate ", "
        ([SectionName.console, .network, .audit].map fun s => ticked s.key)
  | .unknownField key (some name) =>
    "unknown field " ++ ticked key ++ ", expected " ++ ticked name.field
  | .wrongType found expected =>
    "invalid type: " ++ foundText found ++ ", expected " ++ expected.phrase
  | .emptyArray name => "invalid length 0, expected " ++ name.title ++ " with 1 element"

end Complaint

namespace GatewaySettings

def readText : Toml.Value → Except Complaint String
  | .string s => .ok s
  | v => .error (.wrongType v .text)

def readTruth : Toml.Value → Except Complaint Bool
  | .boolean b => .ok b
  | v => .error (.wrongType v .truth)

variable {α : Type}

/-- The field of a section that is a table. -/
def readField (name : SectionName) (read : Toml.Value → Except Complaint α) :
    Toml.Table → Except Complaint (Option α)
  | [] => .ok none
  | (key, v) :: rest =>
    if key = name.field then do
      let a ← read v
      let later ← readField name read rest
      return some (later.getD a)
    else .error (.unknownField key (some name))

/-- The key under which a date or time presents itself when a table is asked for. -/
def datetimeKey : String := "$__toml_private_datetime"

/-- The field of a section. -/
def readSection (name : SectionName) (read : Toml.Value → Except Complaint α) :
    Toml.Value → Except Complaint (Option α)
  | .table entries => readField name read entries
  | .array (v :: _) => some <$> read v
  | .array [] => .error (.emptyArray name)
  | .datetime => .error (.unknownField datetimeKey (some name))
  | v => .error (.wrongType v (.section name))

/-- The settings with one more entry of the document. -/
def readEntry (g : GatewaySettings) (key : String) (v : Toml.Value) :
    Except Complaint GatewaySettings :=
  match SectionName.ofKey? key with
  | some .console => do return { g with console := some ⟨← readSection .console readText v⟩ }
  | some .network => do return { g with network := some ⟨← readSection .network readTruth v⟩ }
  | some .audit => do return { g with audit := some ⟨← readSection .audit readTruth v⟩ }
  | none => .error (.unknownField key none)

/-- The settings with some more entries of the document. -/
def readEntries (g : GatewaySettings) : Toml.Table → Except Complaint GatewaySettings
  | [] => .ok g
  | (key, v) :: rest => do
    let g ← g.readEntry key v
    readEntries g rest

/-- The settings of a text. -/
def ofToml (s : String) : Except Complaint GatewaySettings :=
  match Toml.parse? s with
  | some table => readEntries .empty table
  | none => .error .notToml

end GatewaySettings

end CapabilityGateway
