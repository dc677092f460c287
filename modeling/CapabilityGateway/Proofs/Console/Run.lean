import CapabilityGateway.Capability.Console
import CapabilityGateway.Proofs.Host.Bridge
import CapabilityGateway.Proofs.Sandbox.Assembly

/-!
# Runs of a console

What happens around a console over time: it is called, by the host or by a guest through one of its
methods, and the host changes the bridge that the console forwards to. `Console.run` carries such
steps out one after another.

* `Console.Entry.call_eq`: a call through any entry writes its arguments to the console's sink.
-/

namespace CapabilityGateway

namespace Console

/-- The ways to call a console: by the host itself, and through the methods of its object. -/
inductive Entry where
  | host
  | method (name : String) (h : name ∈ methods)

/-- A call that may have `depth` further calls open at once. A method that the object did not have
would be undefined, which cannot be called. The host's own call answers nothing, for which undefined
stands. -/
def Entry.call (console : Console) (depth : Nat) (arguments : List Value) (w : World) :
    Entry → Outcome Value
  | .host => (console.log depth arguments w).map fun _ => .undefined
  | .method name _ =>
    Invoker.call (Callable.invoke (depth + 1)) ((console.surface.member? name).getD .undefined)
      arguments w

inductive Step where
  | call (entry : Entry) (arguments : List Value)
  /-- The host changes the bridge that the console forwards to. -/
  | change (c : Bridge.Change)

/-- What the caller of a step gets. -/
inductive Reply where
  | called (result : Except Fault Value)
  /-- The callable that was under the key before. -/
  | changed (previous : Option Callable)

/-- One step around a console and a bridge. A call has no outcome when its depth does not
suffice. -/
def Step.perform (console : Console) (bridge : Identity) (depth : Nat) (w : World) :
    Step → Option (Reply × World)
  | .call entry arguments =>
    match entry.call console depth arguments w with
    | some (r, w) => some (.called r, w)
    | none => none
  | .change c =>
    let (previous, w) := w.change bridge c
    some (.changed previous, w)

/-- Steps one after another, with their replies. -/
def run (console : Console) (bridge : Identity) (depth : Nat) :
    List Step → World → Option (List Reply × World)
  | [], w => some ([], w)
  | s :: rest, w =>
    match s.perform console bridge depth w with
    | some (reply, w) =>
      match run console bridge depth rest w with
      | some (replies, w) => some (reply :: replies, w)
      | none => none
    | none => none

theorem run_cons (console : Console) (bridge : Identity) (depth : Nat) (s : Step)
    (rest : List Step) (w : World) :
    run console bridge depth (s :: rest) w =
      (s.perform console bridge depth w).bind fun p =>
        (run console bridge depth rest p.2).map fun q => (p.1 :: q.1, q.2) := by
  rw [run]
  cases s.perform console bridge depth w with
  | none => rfl
  | some p =>
    cases hrest : run console bridge depth rest p.2 with
    | none => simp [hrest]
    | some q => simp [hrest]

theorem run_cons_of_perform {console : Console} {bridge : Identity} {depth : Nat} {s : Step}
    {rest : List Step} {w w₁ w₂ : World} {reply : Reply} {replies : List Reply}
    (hstep : s.perform console bridge depth w = some (reply, w₁))
    (hrest : run console bridge depth rest w₁ = some (replies, w₂)) :
    run console bridge depth (s :: rest) w = some (reply :: replies, w₂) := by
  rw [run_cons, hstep, Option.bind_some, hrest]
  rfl

/-! ## Every entry leads to the sink -/

/-- Each method of a console that was made for a sink is a function that writes to the sink. -/
theorem member?_create (sink : Sink) (w : World) {name : String} (h : name ∈ methods) :
    ∃ i, (create sink w).1.surface.member? name = some (.function (.mk i (.write sink))) := by
  rw [create_eq]
  simp only [methods, List.mem_cons, List.not_mem_nil, or_false] at h
  rcases h with rfl | rfl | rfl | rfl | rfl | rfl <;> exact ⟨_, rfl⟩

theorem sink_create (sink : Sink) (w : World) : (create sink w).1.sink = sink := by
  rw [create_eq]

/-- A method hands over to the sink one call deeper than the host does, and this call is its own. So
every entry leaves the sink the same depth. -/
theorem Entry.call_eq (sink : Sink) (w₀ : World) (entry : Entry) (depth : Nat)
    (arguments : List Value) (w : World) :
    entry.call (create sink w₀).1 depth arguments w =
      ((Callable.invoke depth).write sink arguments w).map fun _ => .undefined := by
  cases entry with
  | host => simp only [call, Console.log, sink_create]
  | method name h =>
    obtain ⟨i, hi⟩ := member?_create sink w₀ h
    simp only [call, hi, Option.getD_some]
    rfl

end Console

end CapabilityGateway
