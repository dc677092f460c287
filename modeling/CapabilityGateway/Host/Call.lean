import CapabilityGateway.Guest.Stringify
import CapabilityGateway.Host.World

/-!
# Calls

Carrying out the behaviour of a callable. A callable can lead to further calls, through a bridge or
by calling values in turn, and a bridge can lead back to the callable itself, so a call need not
come to an end. It is therefore given a depth: how many calls may be open at once. A call that would
go deeper has no outcome, and one that has an outcome has the same at every greater depth.
-/

namespace CapabilityGateway

/-- The key under which console lines go to a bridge. -/
def consoleKey : String := "console.log"

/-- How a call ends, and the world it leaves; nothing when the depth does not suffice. -/
abbrev Outcome (α : Type) := Option (Except Fault α × World)

namespace Outcome

/-- The outcome with the result changed, when it is not a fault. -/
def map {α β : Type} (f : α → β) : Outcome α → Outcome β
  | some (.ok a, w) => some (.ok (f a), w)
  | some (.error e, w) => some (.error e, w)
  | none => none

end Outcome

/-- A way to call callables. -/
abbrev Invoker := Callable → List Value → World → Outcome Value

namespace Invoker

/-- Calls a value, which has to be a function. -/
def call (invoke : Invoker) (v : Value) (arguments : List Value) (w : World) : Outcome Value :=
  match v with
  | .function f => invoke f arguments w
  | v => some (.error v.notCallable, w)

/-- Calls values one after another up to the first fault. The result is that of the last one,
`last` if there is none. -/
def inTurn (invoke : Invoker) (arguments : List Value) :
    List Value → Value → World → Outcome Value
  | [], last, w => some (.ok last, w)
  | v :: vs, _, w =>
    match invoke.call v arguments w with
    | some (.ok r, w) => inTurn invoke arguments vs r w
    | other => other

/-- Calls the entry of a bridge. The entry is looked up once, before the call. -/
def callEntry (invoke : Invoker) (bridge : Identity) (key : String) (arguments : List Value)
    (w : World) : Outcome Value :=
  match (w.bridges bridge).resolve key with
  | some f => invoke f arguments w
  | none => some (.error (.missingHostFunction key), w)

/-- Performs an operation of a transport. -/
def perform (invoke : Invoker) (transport : Identity) (operation : Operation)
    (arguments : List Value) (w : World) : Outcome Value :=
  match (w.transports transport).handler operation with
  | some v => invoke.call v arguments w
  | none => some (w.receive (.performed operation arguments))

/-- Writes the line of the arguments to a sink. A forwarding sink hands the line to its bridge as a
single string. When the bridge has no entry for lines, the line is lost, and both the trace and the
audit logger hear of it. -/
def write (invoke : Invoker) (sink : Sink) (arguments : List Value) (w : World) : Outcome Unit :=
  match sink.mode with
  | .discard => some (.ok (), w)
  | .forward bridge =>
    match (w.bridges bridge).resolve consoleKey with
    | some f => (invoke f [.string (Value.line arguments)] w).map fun _ => ()
    | none =>
      some (.error (.missingHostFunction consoleKey),
        (w.emit (.lineDropped consoleKey)).audit sink.logger (.hostFunctionMissing consoleKey))

end Invoker

/-- The fault of calling a callable of a fixed number of arguments with another number. -/
def wrongCount (name : String) (expected got : Nat) : Fault :=
  .typeError (name ++ " expects " ++ toString expected ++ " argument" ++
    (if expected = 1 then "" else "s") ++ ", got " ++ toString got)

/-- The reaction of a behaviour to a call, with a way to make further calls. -/
def Behaviour.react (invoke : Invoker) :
    Behaviour → List Value → World → Outcome Value
  | .nothing, _, w => some (.ok .undefined, w)
  | .constant v, _, w => some (.ok v, w)
  | .collect, arguments, w =>
    let (v, w) := w.newArray arguments
    some (.ok v, w)
  | .firstArgument, arguments, w => some (.ok (arguments.headD .undefined), w)
  | .countArguments, arguments, w => some (.ok (.number (.ofNat arguments.length)), w)
  | .report tag, arguments, w => some (w.receive (.reported tag arguments))
  | .fail fault, _, w => some (.error fault, w)
  | .inTurn vs, arguments, w => invoke.inTurn arguments vs .undefined w
  | .callEntry bridge key, arguments, w => invoke.callEntry bridge key arguments w
  | .writeEntry bridge key f, _, w =>
    let (replaced, w) := w.register bridge key f
    some (.ok (.bool replaced.isSome), w)
  | .removeEntry bridge key, _, w =>
    let (removed, w) := w.unregister bridge key
    some (.ok (.bool removed.isSome), w)
  | .exactly name count behaviour, arguments, w =>
    if arguments.length = count then behaviour.react invoke arguments w
    else some (.error (wrongCount name count arguments.length), w)
  | .write sink, arguments, w => (invoke.write sink arguments w).map fun _ => .undefined
  | .relay transport operation, arguments, w => invoke.perform transport operation arguments w

/-- Calls a callable, with at most `depth` calls open at once. -/
def Callable.invoke : Nat → Invoker
  | 0, _, _, _ => none
  | depth + 1, f, arguments, w => f.behaviour.react (invoke depth) arguments w

end CapabilityGateway
