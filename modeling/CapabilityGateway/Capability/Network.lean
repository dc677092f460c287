import CapabilityGateway.Capability.Error
import CapabilityGateway.Guest.Display
import CapabilityGateway.Host.World

/-!
# The network capabilities

A transport appears to guests as two objects, one for plain connections and one for secure ones.
Each member performs one operation of the transport: arguments go in and results and faults come out
unchanged.
-/

namespace CapabilityGateway

structure Network where
  net : Value
  tls : Value

namespace Network

/-- The members for plain connections. -/
def netMembers (transport : Identity) : List (String × Behaviour) := [
  ("connect", .relay transport .connect),
  ("listen", .relay transport .listen)]

/-- The members for secure connections. -/
def tlsMembers (transport : Identity) : List (String × Behaviour) := [
  ("connect", .relay transport .connectTls),
  ("listen", .relay transport .listenTls),
  ("startTls", .relay transport .startTls)]

/-- The two objects of a transport. -/
def ofTransport (transport : Identity) (w : World) : Network × World :=
  let (net, w) := w.newSurface (netMembers transport)
  let (tls, w) := w.newSurface (tlsMembers transport)
  (⟨net, tls⟩, w)

/-- The value serves as the capability of that name: it is an object. -/
def requireObject (name : String) (v : Value) : Except CapabilityError Unit :=
  match v with
  | .object .. => .ok ()
  | v => .error (.notObject name v.typeName)

/-- Two values as the network capabilities. -/
def ofValues (net tls : Value) : Except CapabilityError Network := do
  requireObject "net" net
  requireObject "tls" tls
  return ⟨net, tls⟩

def inspect (n : Network) : String :=
  Inspect.record "NetworkModule" [("net", n.net.inspect), ("tls", n.tls.inspect)]

end Network

end CapabilityGateway
