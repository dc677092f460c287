import CapabilityGateway.Files.Tree
import CapabilityGateway.Settings.Schema

/-!
# Settings errors

Why settings cannot be loaded.
-/

namespace CapabilityGateway

inductive SettingsError where
  | notFound (file : Path)
  | unreadable (failure : ReadFailure)
  | malformed (file : Path) (complaint : Complaint)
  /-- A console mode that is none, as it was compared. -/
  | invalidMode (got : String)
  /-- Nobody knows where the user's files are. -/
  | homeNotFound

def ReadFailure.message : ReadFailure → String
  | .missing => "No such file or directory (os error 2)"
  | .isDirectory => "Is a directory (os error 21)"
  | .notDirectory => "Not a directory (os error 20)"
  | .notText => "stream did not contain valid UTF-8"

/-- The words of an error. Those of a malformed file leave room for the complaint. -/
def SettingsError.message : SettingsError → String
  | .notFound file => "Configuration file not found: " ++ file.text
  | .unreadable failure => "Failed to read configuration file: " ++ failure.message
  | .malformed file _ => "Invalid TOML syntax in " ++ file.text ++ ": "
  | .invalidMode got =>
    "Invalid value for 'console.mode': must be 'discard' or 'forward', got '" ++ got ++ "'"
  | .homeNotFound => "Home directory not found"

end CapabilityGateway
