/-!
# Capability errors

Why capabilities cannot be installed, or a value cannot serve as one.
-/

namespace CapabilityGateway

inductive CapabilityError where
  /-- The name is already fixed to something else. -/
  | collision (name : String)
  | emptySet
  | duplicate (name : String)
  /-- Guest code could not reach the name. -/
  | invalidName (name : String)
  /-- A capability that has to be an object is a value of another kind. -/
  | notObject (name typeName : String)
  deriving DecidableEq

def CapabilityError.message : CapabilityError → String
  | .collision name => "Capability '" ++ name ++ "' collides with an existing fixed global"
  | .emptySet => "Capability set is empty"
  | .duplicate name => "Capability '" ++ name ++ "' is listed more than once"
  | .invalidName name => "Invalid capability name '" ++ name ++ "'"
  | .notObject name typeName =>
    "Invalid capability '" ++ name ++ "': expected a namespace object, got " ++ typeName

end CapabilityGateway
