import CapabilityGateway.Host.Call

/-!
# Consoles

What a guest has in place of an engine's own console: an object whose six methods all write to one
sink, whatever the method. The sink is chosen when the console is made. The object is made once, so
a console always shows the same object.
-/

namespace CapabilityGateway

/-- A bridge for inspection, by its keys. -/
def Bridge.inspect (b : Bridge) : String :=
  Inspect.record "HostFunctionBridge" [("keys", Inspect.strings b.keys)]

/-- A sink mode for inspection. -/
def SinkMode.inspect (w : World) : SinkMode → String
  | .discard => "Discard"
  | .forward bridge => Inspect.wrapped "Forward" (w.bridges bridge).inspect

structure Console where
  sink : Sink
  /-- The object that guests see. -/
  surface : Value

namespace Console

/-- The methods of a console object. -/
def methods : List String := ["log", "info", "debug", "warn", "error", "trace"]

/-- A new console with a sink. -/
def create (sink : Sink) (w : World) : Console × World :=
  let w := w.emit (.consoleCreated sink.mode.name)
  let (surface, w) := w.newSurface (methods.map fun method => (method, .write sink))
  (⟨sink, surface⟩, w)

/-- One line of output, made by the host itself. -/
def log (console : Console) (depth : Nat) (arguments : List Value) (w : World) : Outcome Unit :=
  (Callable.invoke depth).write console.sink arguments w

def inspect (console : Console) (w : World) : String :=
  Inspect.record "ConsoleShim" [("mode", console.sink.mode.inspect w)]

end Console

end CapabilityGateway
