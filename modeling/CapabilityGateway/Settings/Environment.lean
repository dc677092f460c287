import CapabilityGateway.Files.Path

/-!
# The environment

What settings depend on besides files: some variables, and where the user's home is. A variable may
hold something that is not text; then it counts as not set. How the system finds the home directory
is left open.
-/

namespace CapabilityGateway

inductive Variable where
  | console
  | network
  | audit
  deriving DecidableEq

def Variable.name : Variable → String
  | .console => "CAPGATE_CONSOLE"
  | .network => "CAPGATE_NETWORK"
  | .audit => "CAPGATE_AUDIT"

/-- What a variable holds. -/
inductive Setting where
  | text (s : String)
  | notText
  deriving DecidableEq

structure Environment where
  setting : Variable → Option Setting
  /-- The home directory, if the system tells one. Files are only looked up below it, so a directory
  whose path is not text can go by any text that no other directory has. -/
  home : Option Path

/-- The text of a variable. -/
def Environment.text? (env : Environment) (v : Variable) : Option String :=
  match env.setting v with
  | some (.text s) => some s
  | _ => none

end CapabilityGateway
