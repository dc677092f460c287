import CapabilityGateway.Audit.Entry
import CapabilityGateway.Host.Bridge
import CapabilityGateway.Host.Trace

/-!
# The state of the host

Everything that outlives a single operation and can be seen later: the tables of the bridges, the
transports, the audit logs, the calls that the host has received and the trace. Namespaces, consoles
and contexts are plain values and not part of it.

An identity that was never given out stands for an empty bridge, a transport without handlers or an
empty log, so looking something up never fails.
-/

namespace CapabilityGateway

/-- A call that reaches host code: a reported call of a callable, or an operation of a transport. -/
inductive HostCall where
  | reported (tag : String) (arguments : List Value)
  | performed (operation : Operation) (arguments : List Value)

namespace HostCall

/-- The plainest host: reported calls answer nothing, operations answer their own name. -/
def plainAnswer : HostCall → Except Fault Value
  | .reported .. => .ok .undefined
  | .performed operation _ => .ok (.string operation.name)

end HostCall

/-- A transport may hand an operation to a value, which is then called with the arguments. An
operation without a handler is a call to the host. -/
structure Transport where
  handler : Operation → Option Value

def Transport.plain : Transport := ⟨fun _ => none⟩

structure World where
  /-- Every identity below this one is given out. -/
  next : Identity
  bridges : Identity → Bridge
  transports : Identity → Transport
  logs : Identity → List AuditEntry
  /-- The calls that the host has received, in order. -/
  calls : List HostCall
  /-- The trace, in order. -/
  trace : List TraceEvent
  /-- The clock. -/
  now : Timestamp
  /-- What the host answers to a call, given the calls before it. -/
  answer : List HostCall → HostCall → Except Fault Value

namespace World

/-- A world in which nothing has happened. -/
def initial (now : Timestamp) (answer : List HostCall → HostCall → Except Fault Value) : World where
  next := 0
  bridges := fun _ => .empty
  transports := fun _ => .plain
  logs := fun _ => []
  calls := []
  trace := []
  now := now
  answer := answer

/-- A function with a new value at one place. -/
def replace {α : Type} (f : Identity → α) (i : Identity) (a : α) : Identity → α :=
  fun j => if j = i then a else f j

/-! ## Making things -/

/-- An identity that was not given out before. -/
def fresh (w : World) : Identity × World := (w.next, { w with next := w.next + 1 })

def newArray (w : World) (elements : List Value) : Value × World :=
  let (i, w) := w.fresh
  (.array i elements, w)

def newObject (w : World) (properties : List (String × Value)) : Value × World :=
  let (i, w) := w.fresh
  (Value.objectOf i properties, w)

def newCallable (w : World) (behaviour : Behaviour) : Callable × World :=
  let (i, w) := w.fresh
  (.mk i behaviour, w)

/-- New callables, one for each behaviour and in that order, under the names given with them. -/
def newMembers (w : World) : List (String × Behaviour) → List (String × Value) × World
  | [] => ([], w)
  | (name, behaviour) :: rest =>
    let (f, w) := w.newCallable behaviour
    let (members, w) := newMembers w rest
    ((name, .function f) :: members, w)

/-- A new object whose properties are new callables. -/
def newSurface (w : World) (members : List (String × Behaviour)) : Value × World :=
  let (properties, w) := w.newMembers members
  w.newObject properties

def newBridge (w : World) : Identity × World :=
  let (i, w) := w.fresh
  (i, { w with bridges := replace w.bridges i .empty })

def newTransport (w : World) (t : Transport) : Identity × World :=
  let (i, w) := w.fresh
  (i, { w with transports := replace w.transports i t })

/-- A new logger with an empty log. -/
def newLog (w : World) : AuditLogger × World :=
  let (i, w) := w.fresh
  (.keeping i, { w with logs := replace w.logs i [] })

/-! ## Bridges -/

/-- Writes an entry of a bridge; the callable that was there before comes back. -/
def register (w : World) (bridge : Identity) (key : String) (f : Callable) :
    Option Callable × World :=
  let b := w.bridges bridge
  (b.resolve key, { w with bridges := replace w.bridges bridge (b.register key f) })

/-- Removes an entry of a bridge, which comes back. -/
def unregister (w : World) (bridge : Identity) (key : String) : Option Callable × World :=
  let b := w.bridges bridge
  (b.resolve key, { w with bridges := replace w.bridges bridge (b.unregister key) })

/-! ## Trace, audit logs and calls -/

def emit (w : World) (event : TraceEvent) : World := { w with trace := w.trace ++ [event] }

/-- Hands an audit event to a logger. -/
def audit (w : World) (logger : AuditLogger) (event : AuditEvent) : World :=
  match logger with
  | .silent => w
  | .keeping log => { w with logs := replace w.logs log (w.logs log ++ [⟨w.now, event⟩]) }
  | .tracing => w.emit (.audited event)

/-- What a logger has kept. -/
def entries (w : World) : AuditLogger → List AuditEntry
  | .keeping log => w.logs log
  | .silent | .tracing => []

/-- Makes a logger forget. -/
def clear (w : World) : AuditLogger → World
  | .keeping log => { w with logs := replace w.logs log [] }
  | .silent | .tracing => w

/-- The host receives a call and answers it. -/
def receive (w : World) (call : HostCall) : Except Fault Value × World :=
  (w.answer w.calls call, { w with calls := w.calls ++ [call] })

end World

end CapabilityGateway
