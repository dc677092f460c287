import CapabilityGateway.Capability.Console
import CapabilityGateway.Capability.Network

/-!
# Capability sets

Everything one context receives: a console always, and the network when the host grants it.
-/

namespace CapabilityGateway

structure CapabilitySet where
  console : Console
  network : Option Network

namespace CapabilitySet

/-- The bindings in the order of their installation. -/
def bindings (s : CapabilitySet) : List (String × Value) :=
  ("console", s.console.surface) ::
    match s.network with
    | some n => [("net", n.net), ("tls", n.tls)]
    | none => []

def names (s : CapabilitySet) : List String := s.bindings.map Prod.fst

def inspect (s : CapabilitySet) (w : World) : String :=
  Inspect.record "CapabilitySet"
    [("console", s.console.inspect w),
     ("network", Inspect.optional (s.network.map Network.inspect))]

end CapabilitySet

end CapabilityGateway
