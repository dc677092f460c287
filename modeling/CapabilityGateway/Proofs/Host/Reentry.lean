import CapabilityGateway.Proofs.Host.Code

/-!
# A bridge that is changed during its calls

A bridge is a map from keys to callables, and it stays one when the callables change it while they
run. The history of some host code lists all that happened to the bridge, in order and across all
open calls, with the bridge as it was right afterwards. At each point of a history the bridge is the
map that comes of the changes before that point, applied one after another.

Calls nest, so a history is built along the execution: that of a call stands, as a whole, between
the beginning of the call and its end. The induction is on the execution, with the map threaded
through.

* `HostCode.Executes`: what happens to a bridge when host code is carried out.
* `HostCode.run_iff_executes`: these are the runs that come back.
* `HostCode.Executes.holds`: the history tells the truth about the map.
* `HostCode.reentrancy_law`: all of this about one bridge.
-/

namespace CapabilityGateway

namespace Bridge

/-- What the keys are bound to. -/
abbrev Table := String → Option Callable

/-- What happens to a bridge. -/
inductive Event where
  /-- A key is bound to `now`, or to nothing, and `previous` is given back. -/
  | changed (key : String) (now previous : Option Callable)
  /-- A call of a key begins, and `f` is called. -/
  | called (key : String) (arguments : List Value) (f : Callable)
  /-- The latest of the calls that are open ends. -/
  | returned (r : Except Fault Value)
  /-- A call of a key finds nothing. -/
  | missed (key : String) (arguments : List Value)

namespace Event

/-- The table after the event. -/
def after (t : Table) : Event → Table
  | .changed key now _ => Function.update t key now
  | .called .. | .returned _ | .missed .. => t

/-- What the event says about the table before it is so. -/
def Fits (t : Table) : Event → Prop
  | .changed key _ previous => previous = t key
  | .called key _ f => t key = some f
  | .returned _ => True
  | .missed key _ => t key = none

end Event

/-- Events in order, each with the bridge right after it. -/
abbrev History := List (Event × Bridge)

namespace History

/-- The table after some events. -/
def table (t : Table) (h : History) : Table := h.foldl (fun t p => p.1.after t) t

/-- What a history says is so, if it begins with the table `t`. -/
def Holds : Table → History → Prop
  | _, [] => True
  | t, (e, b) :: rest => e.Fits t ∧ b.resolve = e.after t ∧ Holds (e.after t) rest

theorem table_append (t : Table) (h₁ h₂ : History) :
    table t (h₁ ++ h₂) = table (table t h₁) h₂ :=
  List.foldl_append

theorem holds_append {t : Table} {h₁ h₂ : History} :
    Holds t (h₁ ++ h₂) ↔ Holds t h₁ ∧ Holds (table t h₁) h₂ := by
  induction h₁ generalizing t with
  | nil => exact iff_of_eq (true_and _).symm
  | cons p rest ih =>
    obtain ⟨e, b⟩ := p
    rw [List.cons_append, Holds, Holds, ih, and_assoc, and_assoc]
    rfl

/-- Each event fits the changes before it, and the bridge after it is the map that they make. -/
theorem Holds.at {t : Table} {before after : History} {e : Event} {b : Bridge}
    (h : Holds t (before ++ (e, b) :: after)) :
    e.Fits (table t before) ∧ b.resolve = e.after (table t before) :=
  let ⟨_, hfits, hbridge, _⟩ := holds_append.mp h
  ⟨hfits, hbridge⟩

end History

end Bridge

namespace HostCode

open Bridge (History)

/-! ## Executions -/

/-- Host code that is carried out in the world `w`, where each callable has its code, comes to an
end with the result `r` in the world `w'`, and this is what happens to the bridge meanwhile. -/
inductive Executes (code : Callable → List Value → HostCode) (bridge : Identity) :
    HostCode → World → History → Except Fault Value → World → Prop where
  | answer (r : Except Fault Value) (w : World) : Executes code bridge (.answer r) w [] r w
  | look {next : World → HostCode} {w w' : World} {h : History} {r : Except Fault Value}
      (rest : Executes code bridge (next w) w h r w') : Executes code bridge (.look next) w h r w'
  | alter {effect : World → World} {next : HostCode} {w w' : World} {h : History}
      {r : Except Fault Value} (rest : Executes code bridge next (w.alter bridge effect) h r w') :
      Executes code bridge (.alter effect next) w h r w'
  | change {c : Bridge.Change} {next : Option Callable → HostCode} {w w' : World} {h : History}
      {r : Except Fault Value}
      (rest : Executes code bridge (next (w.change bridge c).1) (w.change bridge c).2 h r w') :
      Executes code bridge (.change c next) w
        ((.changed c.key (c.now w) (w.change bridge c).1,
          (w.change bridge c).2.bridges bridge) :: h) r w'
  /-- The callable is the one that is bound when the call begins, whatever the call does to its key.
  Its result goes on to the caller as it is. -/
  | call {key : String} {arguments : List Value} {next : Except Fault Value → HostCode}
      {w w₁ w' : World} {f : Callable} {inner h : History} {result r : Except Fault Value}
      (bound : (w.bridges bridge).resolve key = some f)
      (called : Executes code bridge (code f arguments) w inner result w₁)
      (rest : Executes code bridge (next result) w₁ h r w') :
      Executes code bridge (.call key arguments next) w
        ((.called key arguments f, w.bridges bridge) :: inner ++
          (.returned result, w₁.bridges bridge) :: h) r w'
  | miss {key : String} {arguments : List Value} {next : Except Fault Value → HostCode}
      {w w' : World} {h : History} {r : Except Fault Value}
      (unbound : (w.bridges bridge).resolve key = none)
      (rest : Executes code bridge (next (.error (.missingHostFunction key))) w h r w') :
      Executes code bridge (.call key arguments next) w
        ((.missed key arguments, w.bridges bridge) :: h) r w'
  /-- A call that does not go through the bridge is no event, but what it does to the bridge is. -/
  | apply {f : Callable} {arguments : List Value} {next : Except Fault Value → HostCode}
      {w w₁ w' : World} {inner h : History} {result r : Except Fault Value}
      (called : Executes code bridge (code f arguments) w inner result w₁)
      (rest : Executes code bridge (next result) w₁ h r w') :
      Executes code bridge (.apply f arguments next) w (inner ++ h) r w'

section Executions

variable {code : Callable → List Value → HostCode} {bridge : Identity} {c : HostCode}
  {w w' : World} {r : Except Fault Value}

/-- Whatever comes back from the invoker is an execution of the code. -/
def Executed (code : Callable → List Value → HostCode) (bridge : Identity) (invoke : Invoker) :
    Prop :=
  ∀ f arguments w r w', invoke f arguments w = some (r, w') →
    ∃ h, Executes code bridge (code f arguments) w h r w'

theorem executes_of_run {invoke : Invoker} (hinvoke : Executed code bridge invoke)
    (hrun : c.run invoke bridge w = some (r, w')) : ∃ h, Executes code bridge c w h r w' := by
  -- The induction is on this code alone; what it calls is the invoker's part.
  induction c generalizing w with
  | answer result =>
    cases hrun
    exact ⟨[], .answer _ _⟩
  | look next ih =>
    obtain ⟨h, hrest⟩ := ih w hrun
    exact ⟨h, .look hrest⟩
  | alter effect next ih =>
    obtain ⟨h, hrest⟩ := ih hrun
    exact ⟨h, .alter hrest⟩
  | change c next ih =>
    obtain ⟨h, hrest⟩ := ih _ hrun
    exact ⟨_, .change hrest⟩
  | call key arguments next ih =>
    obtain ⟨⟨result, w₁⟩, hcall, hrun⟩ := Option.bind_eq_some_iff.mp hrun
    obtain ⟨h, hrest⟩ := ih result hrun
    rw [Invoker.callEntry] at hcall
    cases hbound : (w.bridges bridge).resolve key with
    | some f =>
      simp only [hbound] at hcall
      obtain ⟨inner, hcalled⟩ := hinvoke f arguments w result w₁ hcall
      exact ⟨_, .call hbound hcalled hrest⟩
    | none =>
      simp only [hbound] at hcall
      cases hcall
      exact ⟨_, .miss hbound hrest⟩
  | apply f arguments next ih =>
    obtain ⟨⟨result, w₁⟩, hcall, hrun⟩ := Option.bind_eq_some_iff.mp hrun
    obtain ⟨h, hrest⟩ := ih result hrun
    obtain ⟨inner, hcalled⟩ := hinvoke f arguments w result w₁ hcall
    exact ⟨_, .apply hcalled hrest⟩

theorem executed_invoke (depth : Nat) : Executed code bridge (invoke code bridge depth) := by
  induction depth with
  | zero =>
    intro f arguments w r w' hcall
    cases hcall
  | succ depth ih => exact fun f arguments w r w' hcall => executes_of_run ih hcall

/-- A bound that suffices for the called code and one that suffices for the rest make one for
both. -/
theorem exists_run_after_call {f : Callable} {arguments : List Value}
    {next : Except Fault Value → HostCode} {w₁ : World} {result : Except Fault Value}
    (hcalled : ∃ depth,
      (code f arguments).run (invoke code bridge depth) bridge w = some (result, w₁))
    (hrest : ∃ depth, (next result).run (invoke code bridge depth) bridge w₁ = some (r, w')) :
    ∃ depth, (invoke code bridge depth f arguments w).bind (fun p =>
      (next p.1).run (invoke code bridge depth) bridge p.2) = some (r, w') := by
  obtain ⟨m, hm⟩ := hcalled
  obtain ⟨n, hn⟩ := hrest
  refine ⟨max (m + 1) n, Option.bind_eq_some_iff.mpr ⟨(result, w₁), ?_, ?_⟩⟩
  · exact invoke_mono code (Nat.le_max_left (m + 1) n) f arguments w _ hm
  · exact run_mono (invoke_mono code (Nat.le_max_right (m + 1) n)) hn

theorem exists_run_of_executes {h : History} (hexecutes : Executes code bridge c w h r w') :
    ∃ depth, c.run (invoke code bridge depth) bridge w = some (r, w') := by
  induction hexecutes with
  | answer r w => exact ⟨0, rfl⟩
  | look rest ih => exact ih
  | alter rest ih => exact ih
  | change rest ih => exact ih
  | call bound called rest ihCalled ihRest =>
    simp only [run, Invoker.callEntry, bound]
    exact exists_run_after_call ihCalled ihRest
  | miss unbound rest ih =>
    simp only [run, Invoker.callEntry, unbound]
    exact ih
  | apply called rest ihCalled ihRest => exact exists_run_after_call ihCalled ihRest

/-- The executions are the runs that come back at some depth. -/
theorem run_iff_executes :
    (∃ depth, c.run (invoke code bridge depth) bridge w = some (r, w')) ↔
      ∃ h, Executes code bridge c w h r w' :=
  ⟨fun ⟨depth, hrun⟩ => executes_of_run (executed_invoke depth) hrun,
    fun ⟨_, hexecutes⟩ => exists_run_of_executes hexecutes⟩

/-- A call through the bridge is an execution of the callable that is bound when it begins. -/
theorem callEntry_iff {key : String} {arguments : List Value} :
    (∃ depth, (invoke code bridge depth).callEntry bridge key arguments w = some (r, w')) ↔
      match (w.bridges bridge).resolve key with
      | some f => ∃ h, Executes code bridge (code f arguments) w h r w'
      | none => r = .error (.missingHostFunction key) ∧ w' = w := by
  cases hbound : (w.bridges bridge).resolve key with
  | none =>
    simp only [Invoker.callEntry, hbound, exists_const, Option.some.injEq, Prod.mk.injEq]
    exact and_congr eq_comm eq_comm
  | some f =>
    simp only [Invoker.callEntry, hbound]
    constructor
    · rintro ⟨depth, hcall⟩
      exact executed_invoke depth f arguments w r w' hcall
    · rintro ⟨h, hexecutes⟩
      obtain ⟨depth, hrun⟩ := exists_run_of_executes hexecutes
      exact ⟨depth + 1, hrun⟩

/-! ## The map -/

/-- An execution begins and ends with the map that its history begins and ends with. -/
theorem Executes.holds {h : History} (hexecutes : Executes code bridge c w h r w') :
    h.Holds (w.bridges bridge).resolve ∧
      (w'.bridges bridge).resolve = h.table (w.bridges bridge).resolve := by
  induction hexecutes with
  | answer r w => exact ⟨trivial, rfl⟩
  | look rest ih => exact ih
  | @alter effect next w w' h r rest ih =>
    rw [World.bridges_alter] at ih
    exact ih
  | @change c next w w' h r rest ih =>
    obtain ⟨hholds, htable⟩ := ih
    rw [World.resolve_change_eq] at hholds htable
    exact ⟨⟨w.fst_change bridge c, w.resolve_change_eq bridge c, hholds⟩, htable⟩
  | @call key arguments next w w₁ w' f inner h result r bound called rest ihCalled ihRest =>
    obtain ⟨hinner, hinnerTable⟩ := ihCalled
    obtain ⟨hholds, htable⟩ := ihRest
    -- The caller goes on with the map that the history of the call leads to.
    rw [hinnerTable] at hholds htable
    refine ⟨⟨bound, rfl, History.holds_append.mpr ⟨hinner, trivial, hinnerTable, hholds⟩⟩, ?_⟩
    rw [htable]
    exact (History.table_append _ inner ((.returned result, w₁.bridges bridge) :: h)).symm
  | miss unbound rest ih => exact ⟨⟨unbound, rfl, ih.1⟩, ih.2⟩
  | @apply f arguments next w w₁ w' inner h result r called rest ihCalled ihRest =>
    obtain ⟨hinner, hinnerTable⟩ := ihCalled
    obtain ⟨hholds, htable⟩ := ihRest
    rw [hinnerTable] at hholds htable
    exact ⟨History.holds_append.mpr ⟨hinner, hholds⟩,
      htable.trans (History.table_append _ inner h).symm⟩

end Executions

/-- What holds of a bridge when host code is carried out, be it the host's own operations one after
another or code that was called from the bridge, at any depth. What comes back is what comes of an
execution. A call runs the callable that is bound when the call begins, once and with the arguments
as they are, and ends as the callable does; a call of an unbound key fails and changes nothing. At
each point of an execution the bridge is the map that comes of all changes so far in their order,
and a change gives back what its key was bound to before. The keys are those that are bound, in
ascending order. The callables that the gateway itself makes are called in this way. -/
theorem reentrancy_law (code : Callable → List Value → HostCode) (bridge : Identity) :
    (∀ (c : HostCode) (w : World) (r : Except Fault Value) (w' : World),
      (∃ depth, c.run (invoke code bridge depth) bridge w = some (r, w')) ↔
        ∃ h, Executes code bridge c w h r w') ∧
    (∀ (key : String) (arguments : List Value) (w : World) (r : Except Fault Value) (w' : World),
      (∃ depth, (invoke code bridge depth).callEntry bridge key arguments w = some (r, w')) ↔
        match (w.bridges bridge).resolve key with
        | some f => ∃ h, Executes code bridge (code f arguments) w h r w'
        | none => r = .error (.missingHostFunction key) ∧ w' = w) ∧
    (∀ (c : HostCode) (w : World) (h : History) (r : Except Fault Value) (w' : World),
      Executes code bridge c w h r w' →
      (w'.bridges bridge).resolve = h.table (w.bridges bridge).resolve ∧
      ∀ before e b after, h = before ++ (e, b) :: after →
        e.Fits (History.table (w.bridges bridge).resolve before) ∧
        b.resolve = e.after (History.table (w.bridges bridge).resolve before)) ∧
    (∀ b : Bridge, b.keys.Pairwise (· < ·) ∧
      ∀ key, (b.contains key = true ↔ (b.resolve key).isSome) ∧
        ((b.resolve key).isSome ↔ key ∈ b.keys)) ∧
    ∀ depth, Callable.invoke depth =
      invoke (fun f arguments => f.behaviour.code bridge arguments) bridge depth := by
  refine ⟨fun c w r w' => run_iff_executes, fun key arguments w r w' => callEntry_iff,
    fun c w h r w' hexecutes => ?_, fun b => ?_, Callable.invoke_eq bridge⟩
  · obtain ⟨hholds, htable⟩ := hexecutes.holds
    refine ⟨htable, fun before e b after hsplit => ?_⟩
    rw [hsplit] at hholds
    exact hholds.at
  · exact ⟨b.keys_ascending, fun key => ⟨Iff.rfl, Bridge.isSome_resolve_iff⟩⟩

/-- The first callable puts another one under its key, calls the key again and then removes it. The
other one answers its first argument. -/
def successionCode (f : Callable) (arguments : List Value) : HostCode :=
  if f.identity = 0 then
    .change (.register "k" (.mk 1 .nothing)) fun _ => .call "k" arguments fun r =>
      .change (.unregister "k") fun _ => .answer r
  else .answer (.ok (arguments.headD .undefined))

/-- A callable is replaced during its own call, the key is called again, and it is unbound when the
call ends. -/
theorem reentrancy_law_succession :
    let w := World.initial ⟨0, 0⟩ fun _ => HostCall.plainAnswer
    let first : Callable := .mk 0 .nothing
    let second : Callable := .mk 1 .nothing
    let c : HostCode := .change (.register "k" first) fun _ => .call "k" [.bool true] fun r =>
      .call "k" [] fun _ => .answer r
    w.bridges 0 = .empty ∧
    ∃ h w', Executes successionCode 0 c w h (.ok (.bool true)) w' ∧
      h.map Prod.fst = [
        .changed "k" (some first) none, .called "k" [.bool true] first,
        .changed "k" (some second) (some first), .called "k" [.bool true] second,
        .returned (.ok (.bool true)), .changed "k" none (some second),
        .returned (.ok (.bool true)), .missed "k" []] ∧
      (∃ depth, c.run (invoke successionCode 0 depth) 0 w = some (.ok (.bool true), w')) ∧
      (w'.bridges 0).resolve = fun _ => none := by
  intro w first second c
  obtain ⟨hruns, -, hmap, -⟩ := reentrancy_law successionCode 0
  refine ⟨rfl, ?_⟩
  let w₁ := (w.change 0 (.register "k" first)).2
  let w₂ := (w₁.change 0 (.register "k" second)).2
  let w₃ := (w₂.change 0 (.unregister "k")).2
  have hfirstBound : (w₁.bridges 0).resolve "k" = some first := by
    rw [World.resolve_change_eq]
    exact Function.update_self ..
  have hsecondBound : (w₂.bridges 0).resolve "k" = some second := by
    rw [World.resolve_change_eq]
    exact Function.update_self ..
  have hunbound : (w₃.bridges 0).resolve "k" = none := by
    rw [World.resolve_change_eq]
    exact Function.update_self ..
  have hsecond : Executes successionCode 0 (successionCode second [.bool true]) w₂ []
      (.ok (.bool true)) w₂ := .answer _ w₂
  have hfirst : Executes successionCode 0 (successionCode first [.bool true]) w₁ _
      (.ok (.bool true)) w₃ := .change (.call hsecondBound hsecond (.change (.answer _ w₃)))
  have hexecutes : Executes successionCode 0 c w _ (.ok (.bool true)) w₃ :=
    .change (.call hfirstBound hfirst (.miss hunbound (.answer _ w₃)))
  refine ⟨_, w₃, hexecutes, ?_, (hruns c w _ w₃).mpr ⟨_, hexecutes⟩, ?_⟩
  · simp only [List.map_cons, List.map_nil, List.cons_append, List.nil_append, World.fst_change,
      Bridge.Change.key, Bridge.Change.now, hfirstBound, hsecondBound]
    rfl
  · rw [(hmap c w _ _ w₃ hexecutes).1]
    simp only [History.table, Bridge.Event.after, Bridge.Change.key, Bridge.Change.now,
      List.cons_append, List.nil_append, List.foldl_cons, List.foldl_nil, Function.update_idem]
    exact Function.update_eq_self "k" fun _ => none

end HostCode

end CapabilityGateway
