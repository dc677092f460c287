import CapabilityGateway.Capability.Error
import CapabilityGateway.Capability.Name
import CapabilityGateway.Guest.Namespace
import CapabilityGateway.Host.World

/-!
# Installing capabilities

Capabilities become properties of a namespace that are not listed and can be neither changed nor
removed. All of them are examined before the first is written. An examination looks at the entries
in their order and stops at the first that cannot be installed: a name that is no valid one, a name
that came before, or a name that the namespace has fixed to something else.

An entry that the namespace already holds exactly as asked for is written once more, which changes
nothing, and is reported as present rather than installed.
-/

namespace CapabilityGateway

namespace Installation

/-- An entry that can be installed. -/
structure Planned where
  name : String
  property : Property
  /-- The namespace holds the entry already. -/
  present : Bool

/-- What happened to one entry. -/
inductive Notice where
  | installed (name : String)
  | present (name : String)
  | collided (name : String)
  deriving DecidableEq

/-- Tells the trace and the audit logger of a notice. Entries that were present do not concern the
audit. -/
def Notice.announce (logger : AuditLogger) (w : World) : Notice → World
  | .installed name =>
    (w.emit (.capabilityInstalled name)).audit logger (.capabilityInstalled name)
  | .present name => w.emit (.capabilityPresent name)
  | .collided name =>
    (w.emit (.capabilityCollision name)).audit logger (.capabilityCollision name)

/-- Examines one entry, where `seen` holds the names before it. -/
def examine (g : Namespace) (seen : List String) (name : String) (v : Value) :
    Except CapabilityError Planned :=
  let p := Property.fixedHidden v
  if !CapabilityName.isValid name then .error (.invalidName name)
  else if name ∈ seen then .error (.duplicate name)
  else if !g.mayDefine name p then .error (.collision name)
  else .ok ⟨name, p, (g.property? name).any (·.identical p)⟩

/-- Examines the entries up to the first that cannot be installed. -/
def plan (g : Namespace) : List String → List (String × Value) →
    Except CapabilityError (List Planned)
  | _, [] => .ok []
  | seen, (name, v) :: rest => do
    let p ← examine g seen name v
    let ps ← plan g (name :: seen) rest
    return p :: ps

end Installation

/-- How an installation went: its result, the namespace that it leaves and what there is to tell. -/
structure Installation where
  result : Except CapabilityError Unit
  left : Namespace
  notices : List Installation.Notice

namespace Installation

/-- Writes planned entries one after another, up to the first that the namespace refuses. -/
def write : List Planned → Namespace → Installation
  | [], g => ⟨.ok (), g, []⟩
  | p :: ps, g =>
    match g.define p.name p.property with
    | .ok g =>
      let rest := write ps g
      let notice := if p.present then Notice.present p.name else Notice.installed p.name
      { rest with notices := notice :: rest.notices }
    | .error _ => ⟨.error (.collision p.name), g, []⟩

/-- What there is to tell of an error that an examination found. -/
def noticesOf : CapabilityError → List Notice
  | .collision name => [.collided name]
  | _ => []

/-- Installs some bindings. -/
def run (g : Namespace) (bindings : List (String × Value)) : Installation :=
  if bindings.isEmpty then ⟨.error .emptySet, g, []⟩
  else
    match plan g [] bindings with
    | .ok ps => write ps g
    | .error e => ⟨.error e, g, noticesOf e⟩

/-- Tells of everything that happened, in order. -/
def announce (i : Installation) (logger : AuditLogger) (w : World) : World :=
  i.notices.foldl (Notice.announce logger) w

end Installation

end CapabilityGateway
