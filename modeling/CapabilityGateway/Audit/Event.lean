import CapabilityGateway.Text.Inspect

/-!
# Audit events

What the audit trail can say: a context came or went, a capability was installed or met a name that
was already taken, a console call found no host function.
-/

namespace CapabilityGateway

inductive AuditEvent where
  | contextCreated (context : String) (capabilities : List String)
  | contextDestroyed (context : String)
  | capabilityInstalled (name : String)
  | capabilityCollision (name : String)
  | hostFunctionMissing (key : String)
  deriving DecidableEq

namespace AuditEvent

/-- The sentence that a reader of the log sees. -/
def sentence : AuditEvent → String
  | .contextCreated context capabilities =>
    "Context created: " ++ context ++ " (capabilities: " ++
      String.intercalate ", " capabilities ++ ")"
  | .contextDestroyed context => "Context destroyed: " ++ context
  | .capabilityInstalled name => "Capability installed: " ++ name
  | .capabilityCollision name => "Capability collision: " ++ name
  | .hostFunctionMissing key => "Host function missing: " ++ key

/-- Something went wrong, as opposed to merely happened. -/
def isAlarming : AuditEvent → Bool
  | .capabilityCollision _ | .hostFunctionMissing _ => true
  | _ => false

/-- The event for inspection. -/
def inspect : AuditEvent → String
  | .contextCreated context capabilities =>
    Inspect.record "ContextCreated"
      [("context_id", Text.quoted context), ("capabilities", Inspect.strings capabilities)]
  | .contextDestroyed context =>
    Inspect.record "ContextDestroyed" [("context_id", Text.quoted context)]
  | .capabilityInstalled name => Inspect.record "CapabilityInstalled" [("name", Text.quoted name)]
  | .capabilityCollision name => Inspect.record "CapabilityCollision" [("name", Text.quoted name)]
  | .hostFunctionMissing key => Inspect.record "HostFunctionMissing" [("key", Text.quoted key)]

end AuditEvent

end CapabilityGateway
