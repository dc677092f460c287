/-!
# Faults

What can go wrong while guest code runs: a fault is raised by an operation on the namespace, by a
call, or by host code, and is handed to the guest.
-/

namespace CapabilityGateway

inductive Fault where
  /-- A value was used as something it is not, or a callable got a wrong number of arguments. -/
  | typeError (reason : String)
  /-- A free name is bound to nothing. -/
  | undefinedVariable (name : String)
  /-- Assignment to a binding that is not writable. -/
  | readOnlyBinding (name : String)
  /-- Removal or redefinition of a binding that is not configurable. -/
  | notConfigurable (name : String)
  /-- The bridge has no callable under the key. -/
  | missingHostFunction (key : String)
  /-- A failure of host code, with its own words. -/
  | host (words : String)
  deriving DecidableEq

/-- The words of a fault. -/
def Fault.message : Fault → String
  | .typeError reason => "Type error: " ++ reason
  | .undefinedVariable name => "Undefined variable: " ++ name
  | .readOnlyBinding name => "Cannot assign to read-only binding '" ++ name ++ "'"
  | .notConfigurable name => "Cannot redefine non-configurable binding '" ++ name ++ "'"
  | .missingHostFunction key => "Host function '" ++ key ++ "' is not registered"
  | .host words => words

end CapabilityGateway
