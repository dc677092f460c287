import CapabilityGateway.Capability.Console
import CapabilityGateway.Settings.Loader

/-!
# What a context is given

`ContextOptions` say what a new context shall have, `HostServices` what the host offers for it. By
default a context has a console that discards everything, no network and no audit.
-/

namespace CapabilityGateway

structure ContextOptions where
  console : ConsoleMode
  network : Bool
  audit : Bool
  deriving DecidableEq

namespace ContextOptions

def sandboxed : ContextOptions := ⟨.discard, false, false⟩

/-- The options that loaded settings ask for. -/
def ofSettings (s : Settings) : ContextOptions := ⟨s.consoleMode, s.network, s.audit⟩

def inspect (o : ContextOptions) : String :=
  Inspect.record "ContextOptions"
    [("console", o.console.inspect), ("network", Inspect.bool o.network),
     ("audit", Inspect.bool o.audit)]

end ContextOptions

structure HostServices where
  bridge : Option Identity
  transport : Option Identity
  /-- Hears of audit events when a context has audit. -/
  logger : Option AuditLogger

namespace HostServices

/-- A host that offers nothing. -/
def nothing : HostServices := ⟨none, none, none⟩

def inspect (h : HostServices) (w : World) : String :=
  Inspect.record "HostServices"
    [("bridge", Inspect.optional (h.bridge.map fun b => (w.bridges b).inspect)),
     ("transport", Inspect.bool h.transport.isSome),
     ("audit_logger", Inspect.bool h.logger.isSome)]

end HostServices

end CapabilityGateway
