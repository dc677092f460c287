import CapabilityGateway.Capability.Install
import CapabilityGateway.Capability.Set
import CapabilityGateway.Sandbox.Options

/-!
# Contexts

A context is a namespace of its own with the capabilities that it was given when it was made. They
are wired up and installed before there is a context at all, so a context without its capabilities
does not exist. The audit hears when a context has come to be and when it is dropped.
-/

namespace CapabilityGateway

inductive ContextError where
  | capability (e : CapabilityError)
  /-- A forwarding console has nowhere to forward to. -/
  | bridgeRequired
  /-- There is no transport for the network. -/
  | transportRequired
  deriving DecidableEq

def ContextError.message : ContextError → String
  | .capability e => e.message
  | .bridgeRequired => "Console mode 'forward' requires a host function bridge"
  | .transportRequired => "Network access requires a transport"

structure Context where
  id : String
  global : Namespace
  /-- The names of the capabilities, in the order of their installation. -/
  capabilities : List String
  logger : AuditLogger

namespace Context

/-- The context with an identifier whose capabilities are installed into a namespace. -/
def install (id : String) (g : Namespace) (capabilities : CapabilitySet) (logger : AuditLogger)
    (w : World) : Except ContextError Context × World :=
  let i := Installation.run g capabilities.bindings
  let w := i.announce logger w
  match i.result with
  | .error e => (.error (.capability e), w)
  | .ok () =>
    let names := capabilities.names
    let w := (w.emit (.contextCreated id names)).audit logger (.contextCreated id names)
    (.ok ⟨id, i.left, names, logger⟩, w)

/-- The logger of a new context. Without one from the host, audit events go to the trace. -/
def loggerFor (options : ContextOptions) (host : HostServices) : AuditLogger :=
  if options.audit then host.logger.getD .tracing else .silent

/-- The sink mode of a new context's console. -/
def sinkMode? (options : ContextOptions) (host : HostServices) : Option SinkMode :=
  match options.console with
  | .discard => some .discard
  | .forward => host.bridge.map .forward

/-- A new context in a namespace that the engine has filled. -/
def create (id : String) (g : Namespace) (options : ContextOptions) (host : HostServices)
    (w : World) : Except ContextError Context × World :=
  let logger := loggerFor options host
  match sinkMode? options host with
  | none => (.error .bridgeRequired, w)
  | some mode =>
    let (console, w) := Console.create ⟨mode, logger⟩ w
    if options.network then
      match host.transport with
      | none => (.error .transportRequired, w)
      | some transport =>
        let (network, w) := Network.ofTransport transport w
        install id g ⟨console, some network⟩ logger w
    else install id g ⟨console, none⟩ logger w

/-- A context with nothing but a console that discards everything. -/
def sandboxed (id : String) (w : World) : Except ContextError Context × World :=
  create id .empty .sandboxed .nothing w

/-- The end of a context. -/
def drop (c : Context) (w : World) : World :=
  (w.emit (.contextDestroyed c.id)).audit c.logger (.contextDestroyed c.id)

def inspect (c : Context) : String :=
  Inspect.record "SandboxContext"
    [("id", c.id), ("capabilities", Inspect.strings c.capabilities)]

end Context

end CapabilityGateway
