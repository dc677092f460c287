import CapabilityGateway.Proofs.Guest.Renaming
import CapabilityGateway.Sandbox.Context

/-!
# Guests of a context

What a guest does with its context, one step after another: it edits and reads its namespace, and it
calls members of the console that it found there. `GuestStep.run` carries the steps out and collects
the answers.
-/

namespace CapabilityGateway

inductive GuestStep where
  | edit (e : Namespace.Edit)
  | resolve (name : String)
  /-- Asks for the names that are listed. -/
  | keys
  /-- Asks for all names. -/
  | names
  /-- Calls a member of the console. -/
  | call (method : String) (arguments : List Value)

/-- What a guest is answered. -/
inductive Answer where
  | edited (b : Bool)
  | value (v : Value)
  | names (ns : List String)
  | fault (e : Fault)
  /-- The console has no such member. -/
  | absent

namespace Answer

def ofEdit : Except Fault Bool → Answer
  | .ok b => .edited b
  | .error e => .fault e

def ofResult : Except Fault Value → Answer
  | .ok v => .value v
  | .error e => .fault e

def rename (f : Identity → Identity) : Answer → Answer
  | .edited b => .edited b
  | .value v => .value (v.rename f)
  | .names ns => .names ns
  | .fault e => .fault e
  | .absent => .absent

theorem ofResult_rename (f : Identity → Identity) (r : Except Fault Value) :
    ofResult (r.map (Value.rename f)) = (ofResult r).rename f := by
  cases r <;> rfl

theorem ofEdit_rename (f : Identity → Identity) (r : Except Fault Bool) :
    (ofEdit r).rename f = ofEdit r := by
  cases r <;> rfl

end Answer

namespace GuestStep

def rename (f : Identity → Identity) : GuestStep → GuestStep
  | .edit e => .edit (e.rename f)
  | .resolve name => .resolve name
  | .keys => .keys
  | .names => .names
  | .call method arguments => .call method (arguments.map (Value.rename f))

/-- One step, with at most `depth` calls open at once. There is no outcome when that does not
suffice. -/
def perform (depth : Nat) (console : Value) (g : Namespace) (w : World) :
    GuestStep → Option (Answer × Namespace × World)
  | .edit e => some (.ofEdit (e.perform g).1, (e.perform g).2, w)
  | .resolve name => some (.ofResult (g.resolve name), g, w)
  | .keys => some (.names g.keys, g, w)
  | .names => some (.names g.names, g, w)
  | .call method arguments =>
    match console.member? method with
    | some v =>
      match Invoker.call (Callable.invoke depth) v arguments w with
      | some (r, w) => some (.ofResult r, g, w)
      | none => none
    | none => some (.absent, g, w)

/-- Steps one after another, with their answers. -/
def run (depth : Nat) (console : Value) :
    List GuestStep → Namespace → World → Option (List Answer × Namespace × World)
  | [], g, w => some ([], g, w)
  | s :: rest, g, w =>
    match s.perform depth console g w with
    | some (a, g, w) =>
      match run depth console rest g w with
      | some (as, g, w) => some (a :: as, g, w)
      | none => none
    | none => none

end GuestStep

/-- The whole life of a fully sandboxed context: it is made, a guest takes up the console and does
its steps, and the context is dropped. -/
def Context.sandboxedLife (depth : Nat) (id : String) (host : HostServices)
    (steps : List GuestStep) (w : World) : Option (List Answer × World) :=
  match create id .empty .sandboxed host w with
  | (.error _, _) => none
  | (.ok c, w) =>
    match c.global.resolve "console" with
    | .error _ => none
    | .ok console =>
      match GuestStep.run depth console steps c.global w with
      | some (answers, g, w) => some (answers, drop { c with global := g } w)
      | none => none

end CapabilityGateway
