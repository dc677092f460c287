/-!
# References to the host

A callable that a guest holds may lead into the host: to a bridge, to a transport, to an audit log.
It refers to each by an identity, and the state of the host says what the identity stands for.
-/

namespace CapabilityGateway

/-- What distinguishes one thing from every other, whatever it contains. -/
abbrev Identity := Nat

/-- The operations of a transport. -/
inductive Operation where
  | connect
  | listen
  | connectTls
  | listenTls
  | startTls
  deriving DecidableEq

def Operation.name : Operation → String
  | .connect => "connect"
  | .listen => "listen"
  | .connectTls => "connect_tls"
  | .listenTls => "listen_tls"
  | .startTls => "start_tls"

/-- Where audit events go: nowhere, into a log that keeps them, or into the trace. -/
inductive AuditLogger where
  | silent
  | keeping (log : Identity)
  | tracing
  deriving DecidableEq

/-- Where console output goes: nowhere, or as one line to a bridge. -/
inductive SinkMode where
  | discard
  | forward (bridge : Identity)
  deriving DecidableEq

def SinkMode.name : SinkMode → String
  | .discard => "discard"
  | .forward _ => "forward"

/-- A console's sink, with the logger that hears of lost lines. -/
structure Sink where
  mode : SinkMode
  logger : AuditLogger
  deriving DecidableEq

end CapabilityGateway
