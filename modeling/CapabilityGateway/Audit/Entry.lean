import CapabilityGateway.Audit.Event
import CapabilityGateway.Audit.Timestamp
import CapabilityGateway.Json.Text

/-!
# Audit entries

An event with the moment at which it was recorded, and its two written forms: a line for people and
a line of JSON for machines.
-/

namespace CapabilityGateway

structure AuditEntry where
  timestamp : Timestamp
  event : AuditEvent
  deriving DecidableEq

namespace AuditEvent

/-- The name of the kind of event in a JSON line. -/
def kind : AuditEvent → String
  | .contextCreated .. => "context_created"
  | .contextDestroyed _ => "context_destroyed"
  | .capabilityInstalled _ => "capability_installed"
  | .capabilityCollision _ => "capability_collision"
  | .hostFunctionMissing _ => "host_function_missing"

/-- A member of a JSON line whose value is a string. -/
def stringMember (name value : String) : List Char :=
  Json.member name.toList (Json.quote value.toList)

/-- The members of a JSON line that carry what the event says. -/
def members : AuditEvent → List (List Char)
  | .contextCreated context capabilities =>
    [stringMember "context_id" context,
     Json.member "capabilities".toList
       (Json.array (capabilities.map fun c => Json.quote c.toList))]
  | .contextDestroyed context => [stringMember "context_id" context]
  | .capabilityInstalled name => [stringMember "name" name]
  | .capabilityCollision name => [stringMember "name" name]
  | .hostFunctionMissing key => [stringMember "key" key]

end AuditEvent

namespace AuditEntry

/-- The line for people. -/
def logLine (e : AuditEntry) : String :=
  "[" ++ String.ofList e.timestamp.millisText ++ "] " ++ e.event.sentence

/-- The line of JSON. -/
def jsonLine (e : AuditEntry) : String :=
  String.ofList (Json.object
    (AuditEvent.stringMember "timestamp" (String.ofList e.timestamp.exactText) ::
      AuditEvent.stringMember "event" e.event.kind :: e.event.members))

end AuditEntry

end CapabilityGateway
