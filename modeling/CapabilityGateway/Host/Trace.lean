import CapabilityGateway.Audit.Event

/-!
# The trace

What the gateway tells whoever watches it run. Every event has a level, the part of the gateway that
it comes from, a message and some named fields.
-/

namespace CapabilityGateway

inductive TraceEvent where
  | consoleCreated (mode : String)
  /-- A console line found no host function and is lost. -/
  | lineDropped (key : String)
  | capabilityInstalled (name : String)
  /-- A capability is asked for that is installed already. -/
  | capabilityPresent (name : String)
  | capabilityCollision (name : String)
  | contextCreated (context : String) (capabilities : List String)
  | contextDestroyed (context : String)
  /-- An audit event that goes to the trace. -/
  | audited (event : AuditEvent)
  deriving DecidableEq

namespace TraceEvent

inductive Level where
  | debug
  | info
  | warn
  deriving DecidableEq

def Level.name : Level → String
  | .debug => "DEBUG"
  | .info => "INFO"
  | .warn => "WARN"

def level : TraceEvent → Level
  | .consoleCreated _ | .capabilityInstalled _ | .capabilityPresent _ => .debug
  | .contextDestroyed _ => .debug
  | .contextCreated .. => .info
  | .lineDropped _ | .capabilityCollision _ => .warn
  | .audited event => if event.isAlarming then .warn else .info

/-- The part of the gateway that the event comes from. -/
def target : TraceEvent → String
  | .consoleCreated _ | .lineDropped _ => "capgate_runtime::console"
  | .capabilityInstalled _ | .capabilityPresent _ | .capabilityCollision _ =>
    "capgate_runtime::capability::installer"
  | .contextCreated .. | .contextDestroyed _ => "capgate_runtime::context"
  | .audited _ => "capgate::audit"

def message : TraceEvent → String
  | .consoleCreated _ => "console shim created"
  | .lineDropped _ => "console call dropped: host function not registered"
  | .capabilityInstalled _ => "capability installed"
  | .capabilityPresent _ => "capability already installed"
  | .capabilityCollision _ => "capability collides with an existing fixed global"
  | .contextCreated .. => "sandbox context created"
  | .contextDestroyed _ => "sandbox context destroyed"
  | .audited event => event.sentence

/-- The named fields, with their texts. -/
def fields : TraceEvent → List (String × String)
  | .consoleCreated mode => [("mode", mode)]
  | .lineDropped key => [("key", key)]
  | .capabilityInstalled name | .capabilityPresent name | .capabilityCollision name =>
    [("name", name)]
  | .contextCreated context capabilities =>
    [("context_id", context), ("capabilities", Inspect.strings capabilities)]
  | .contextDestroyed context => [("context_id", context)]
  | .audited _ => []

end TraceEvent

end CapabilityGateway
