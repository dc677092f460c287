import CapabilityGateway.Host.Call
import CapabilityGateway.Proofs.Host.Bridge

/-!
# Host code

Host code that was called from a bridge may turn to this bridge again: change it, call its entries,
the very one included through which it was called. Here such code is a tree. Each node is one thing
that the code does, and below it stands how the code goes on with each answer.

A code of every callable gives a way to call callables, with a bound on the calls that are open at
once. What comes back when the bound suffices comes back under every larger one. The callables that
the gateway makes are called in this way, their code being read off their behaviour.

* `HostCode.run_mono`, `HostCode.invoke_mono`: a larger bound does not change what comes back.
* `Callable.invoke_eq`: the calls of `Callable.invoke` are calls of host code.
-/

namespace CapabilityGateway

/-- Host code as one bridge sees it. Wherever an answer comes, the rest depends on it. -/
inductive HostCode where
  | answer (r : Except Fault Value)
  /-- Goes on depending on the world, the bridge included. -/
  | look (next : World → HostCode)
  /-- Does something to the world that leaves the bridge alone. -/
  | alter (effect : World → World) (next : HostCode)
  | change (c : Bridge.Change) (next : Option Callable → HostCode)
  | call (key : String) (arguments : List Value) (next : Except Fault Value → HostCode)
  /-- Calls a callable that the code got hold of in another way. -/
  | apply (f : Callable) (arguments : List Value) (next : Except Fault Value → HostCode)

/-- The world after something that leaves a bridge alone. -/
def World.alter (w : World) (bridge : Identity) (effect : World → World) : World :=
  { effect w with bridges := replace (effect w).bridges bridge (w.bridges bridge) }

theorem World.bridges_alter (w : World) (bridge : Identity) (effect : World → World) :
    (w.alter bridge effect).bridges bridge = w.bridges bridge :=
  if_pos rfl

theorem World.alter_of_bridges_eq {w : World} {bridge : Identity} {effect : World → World}
    (h : (effect w).bridges bridge = w.bridges bridge) : w.alter bridge effect = effect w := by
  have hbridges : replace (effect w).bridges bridge (w.bridges bridge) = (effect w).bridges := by
    funext b
    rw [replace]
    split
    · rename_i hb
      rw [hb, h]
    · rfl
  rw [alter, hbridges]

namespace HostCode

/-- Carries out host code, with a way to call callables. -/
def run (invoke : Invoker) (bridge : Identity) : HostCode → World → Outcome Value
  | .answer r, w => some (r, w)
  | .look next, w => (next w).run invoke bridge w
  | .alter effect next, w => next.run invoke bridge (w.alter bridge effect)
  | .change c next, w => (next (w.change bridge c).1).run invoke bridge (w.change bridge c).2
  | .call key arguments next, w =>
    (invoke.callEntry bridge key arguments w).bind fun p => (next p.1).run invoke bridge p.2
  | .apply f arguments next, w =>
    (invoke f arguments w).bind fun p => (next p.1).run invoke bridge p.2

/-- Calls a callable by carrying out its code, with at most `depth` calls open at once. -/
def invoke (code : Callable → List Value → HostCode) (bridge : Identity) : Nat → Invoker
  | 0, _, _, _ => none
  | depth + 1, f, arguments, w => (code f arguments).run (invoke code bridge depth) bridge w

end HostCode

/-! ## Depth -/

/-- What comes back from the one invoker comes back from the other as well. -/
def Invoker.Below (invoke invoke' : Invoker) : Prop :=
  ∀ f arguments w p, invoke f arguments w = some p → invoke' f arguments w = some p

theorem Invoker.Below.callEntry {invoke invoke' : Invoker} (h : invoke.Below invoke')
    {bridge : Identity} {key : String} {arguments : List Value} {w : World}
    {p : Except Fault Value × World} (hp : invoke.callEntry bridge key arguments w = some p) :
    invoke'.callEntry bridge key arguments w = some p := by
  rw [Invoker.callEntry] at hp ⊢
  cases hf : (w.bridges bridge).resolve key with
  | some f =>
    simp only [hf] at hp ⊢
    exact h f arguments w p hp
  | none => simpa only [hf] using hp

namespace HostCode

variable {invoke' : Invoker} {bridge : Identity}

theorem run_mono {invoke : Invoker} (h : invoke.Below invoke') {c : HostCode} {w : World}
    {p : Except Fault Value × World} (hp : c.run invoke bridge w = some p) :
    c.run invoke' bridge w = some p := by
  induction c generalizing w with
  | answer r => exact hp
  | look next ih => exact ih w hp
  | alter effect next ih => exact ih hp
  | change c next ih => exact ih _ hp
  | call key arguments next ih =>
    obtain ⟨q, hq, hrest⟩ := Option.bind_eq_some_iff.mp hp
    exact Option.bind_eq_some_iff.mpr ⟨q, h.callEntry hq, ih q.1 hrest⟩
  | apply f arguments next ih =>
    obtain ⟨q, hq, hrest⟩ := Option.bind_eq_some_iff.mp hp
    exact Option.bind_eq_some_iff.mpr ⟨q, h f arguments w q hq, ih q.1 hrest⟩

theorem invoke_below_succ (code : Callable → List Value → HostCode) (depth : Nat) :
    (invoke code bridge depth).Below (invoke code bridge (depth + 1)) := by
  induction depth with
  | zero =>
    intro f arguments w p hp
    cases hp
  | succ depth ih => exact fun f arguments w p hp => run_mono ih hp

theorem invoke_mono (code : Callable → List Value → HostCode) {depth depth' : Nat}
    (h : depth ≤ depth') : (invoke code bridge depth).Below (invoke code bridge depth') := by
  induction h with
  | refl => exact fun _ _ _ _ hp => hp
  | step _ ih =>
    exact fun f arguments w p hp => invoke_below_succ code _ f arguments w p (ih f arguments w p hp)

/-! ## The code of a behaviour -/

/-- Does something, on which the answer depends. -/
def plain (effect : World → Except Fault Value × World) : HostCode :=
  .look fun w => .alter (fun w => (effect w).2) (.answer (effect w).1)

/-- Calls a value, which has to be a function. -/
def callValue (v : Value) (arguments : List Value) (next : Except Fault Value → HostCode) :
    HostCode :=
  match v with
  | .function f => .apply f arguments next
  | v => next (.error v.notCallable)

/-- Calls values one after another up to the first fault. -/
def inTurn (arguments : List Value) : List Value → Value → HostCode
  | [], last => .answer (.ok last)
  | v :: vs, _ => callValue v arguments fun
    | .ok r => inTurn arguments vs r
    | .error e => .answer (.error e)

/-- Writes the line of the arguments to a sink. -/
def write (sink : Sink) (arguments : List Value) : HostCode :=
  match sink.mode with
  | .discard => .answer (.ok .undefined)
  | .forward b => .look fun w =>
    match (w.bridges b).resolve consoleKey with
    | some f => .apply f [.string (Value.line arguments)] fun r =>
      .answer (r.map fun _ => .undefined)
    | none => plain fun w => (.error (.missingHostFunction consoleKey),
      (w.emit (.lineDropped consoleKey)).audit sink.logger (.hostFunctionMissing consoleKey))

end HostCode

/-- The code that reacts to a call. Entries of other bridges are looked up and applied. -/
def Behaviour.code (bridge : Identity) : Behaviour → List Value → HostCode
  | .nothing, _ => .answer (.ok .undefined)
  | .constant v, _ => .answer (.ok v)
  | .collect, arguments => .plain fun w => (.ok (w.newArray arguments).1, (w.newArray arguments).2)
  | .firstArgument, arguments => .answer (.ok (arguments.headD .undefined))
  | .countArguments, arguments => .answer (.ok (.number (.ofNat arguments.length)))
  | .report tag, arguments => .plain fun w => w.receive (.reported tag arguments)
  | .fail fault, _ => .answer (.error fault)
  | .inTurn vs, arguments => .inTurn arguments vs .undefined
  | .callEntry b key, arguments =>
    if b = bridge then .call key arguments .answer
    else .look fun w =>
      match (w.bridges b).resolve key with
      | some f => .apply f arguments .answer
      | none => .answer (.error (.missingHostFunction key))
  | .writeEntry b key f, _ =>
    if b = bridge then
      .change (.register key f) fun replaced => .answer (.ok (.bool replaced.isSome))
    else .plain fun w => (.ok (.bool (w.register b key f).1.isSome), (w.register b key f).2)
  | .removeEntry b key, _ =>
    if b = bridge then
      .change (.unregister key) fun removed => .answer (.ok (.bool removed.isSome))
    else .plain fun w => (.ok (.bool (w.unregister b key).1.isSome), (w.unregister b key).2)
  | .exactly name count behaviour, arguments =>
    if arguments.length = count then behaviour.code bridge arguments
    else .answer (.error (wrongCount name count arguments.length))
  | .write sink, arguments => .write sink arguments
  | .relay transport operation, arguments => .look fun w =>
    match (w.transports transport).handler operation with
    | some v => .callValue v arguments .answer
    | none => .plain fun w => w.receive (.performed operation arguments)

namespace HostCode

variable {invoke : Invoker} {bridge : Identity} {w : World}

theorem run_plain {effect : World → Except Fault Value × World}
    (h : (effect w).2.bridges bridge = w.bridges bridge) :
    (plain effect).run invoke bridge w = some (effect w) := by
  rw [plain, run, run, run, World.alter_of_bridges_eq h]

theorem run_callValue (v : Value) (arguments : List Value) (next : Except Fault Value → HostCode) :
    (callValue v arguments next).run invoke bridge w =
      (invoke.call v arguments w).bind fun p => (next p.1).run invoke bridge p.2 := by
  cases v <;> rfl

theorem run_answer (o : Outcome Value) :
    (o.bind fun p => (HostCode.answer p.1).run invoke bridge p.2) = o := by
  cases o <;> rfl

theorem run_inTurn (arguments vs : List Value) (last : Value) :
    (inTurn arguments vs last).run invoke bridge w = invoke.inTurn arguments vs last w := by
  induction vs generalizing last w with
  | nil => rfl
  | cons v rest ih =>
    rw [inTurn, run_callValue, Invoker.inTurn]
    cases invoke.call v arguments w with
    | none => rfl
    | some p =>
      obtain ⟨r, w₁⟩ := p
      cases r with
      | error e => rfl
      | ok a => exact ih a

theorem run_write (sink : Sink) (arguments : List Value) :
    (write sink arguments).run invoke bridge w =
      (invoke.write sink arguments w).map fun _ => .undefined := by
  rw [write, Invoker.write]
  cases sink.mode with
  | discard => rfl
  | forward b =>
    simp only [run]
    cases (w.bridges b).resolve consoleKey with
    | none =>
      refine run_plain ?_
      cases sink.logger <;> rfl
    | some f =>
      simp only [run]
      rcases invoke f [.string (Value.line arguments)] w with - | ⟨_ | _, _⟩ <;> rfl

end HostCode

/-- The reaction of a behaviour is what its code does. -/
theorem Behaviour.run_code {invoke : Invoker} {bridge : Identity} {w : World}
    (arguments : List Value) :
    ∀ b : Behaviour, (b.code bridge arguments).run invoke bridge w = b.react invoke arguments w
  | .nothing => rfl
  | .constant _ => rfl
  | .collect => HostCode.run_plain rfl
  | .firstArgument => rfl
  | .countArguments => rfl
  | .report _ => HostCode.run_plain rfl
  | .fail _ => rfl
  | .inTurn vs => HostCode.run_inTurn arguments vs .undefined
  | .callEntry b key => by
    rw [code, react]
    split
    · rename_i hb
      rw [HostCode.run, HostCode.run_answer, hb]
    · rw [HostCode.run, Invoker.callEntry]
      cases (w.bridges b).resolve key with
      | none => rfl
      | some f => exact HostCode.run_answer _
  | .writeEntry b key f => by
    rw [code, react]
    split
    · rename_i hb
      rw [hb]
      rfl
    · rename_i hb
      exact HostCode.run_plain (World.bridges_register_of_ne (Ne.symm hb) w key f)
  | .removeEntry b key => by
    rw [code, react]
    split
    · rename_i hb
      rw [hb]
      rfl
    · rename_i hb
      exact HostCode.run_plain (World.bridges_unregister_of_ne (Ne.symm hb) w key)
  | .exactly name count b => by
    rw [code, react]
    split
    · exact run_code arguments b
    · rfl
  | .write sink => HostCode.run_write sink arguments
  | .relay transport operation => by
    rw [code, react, HostCode.run, Invoker.perform]
    cases (w.transports transport).handler operation with
    | none => exact HostCode.run_plain rfl
    | some v => rw [HostCode.run_callValue, HostCode.run_answer]

/-- Callables are called by carrying out the code of their behaviour, whichever bridge it is that
this code is looked at from. -/
theorem Callable.invoke_eq (bridge : Identity) (depth : Nat) :
    Callable.invoke depth =
      HostCode.invoke (fun f arguments => f.behaviour.code bridge arguments) bridge depth := by
  induction depth with
  | zero => rfl
  | succ depth ih =>
    funext f arguments w
    rw [Callable.invoke, HostCode.invoke, ih]
    exact (Behaviour.run_code arguments f.behaviour).symm

end CapabilityGateway
