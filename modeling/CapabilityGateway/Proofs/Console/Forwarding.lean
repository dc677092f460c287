import CapabilityGateway.Proofs.Audit.Recording
import CapabilityGateway.Proofs.Console.Run
import CapabilityGateway.Proofs.Host.Alike

/-!
# What a forwarding console does

A forwarding console looks up its host function anew for every call. When there is one, the line of
the arguments goes to that callable, once and as the only argument, and the call ends as the
callable does. When there is none the line is lost, which is recorded and has no other consequence.

* `Console.Forwards`: this law, for runs of any length in which the bridge changes between calls.
* `Console.run_iff_forwards`: the runs of a forwarding console are those of the law.
* `Console.run_through`: it does not matter through which entries the console is called.
* `Console.run_alike`: runs do not depend on records, so a lost line has no part in later calls.
* `Console.run_reporting`: a host that reports its lines receives all of them in order.
* `Console.forwarding_law`: all of this about one console.
-/

namespace CapabilityGateway

namespace Console

/-! ## The law -/

/-- A callable was invoked with some arguments. -/
structure Delivery where
  callable : Callable
  arguments : List Value

/-- The steps lead from one world to another with these replies, and the console makes exactly these
deliveries, in this order. -/
inductive Forwards (bridge : Identity) (logger : AuditLogger) (depth : Nat) :
    World → List Step → List Reply → List Delivery → World → Prop where
  | done (w : World) : Forwards bridge logger depth w [] [] [] w
  | delivered {w w₁ w₂ : World} {entry : Entry} {arguments : List Value} {f : Callable}
      {r : Except Fault Value} {steps : List Step} {replies : List Reply}
      {deliveries : List Delivery}
      (bound : (w.bridges bridge).resolve consoleKey = some f)
      -- The world that the callable leaves goes on unchanged: the console adds nothing.
      (invoked : Callable.invoke depth f [.string (Value.line arguments)] w = some (r, w₁))
      (rest : Forwards bridge logger depth w₁ steps replies deliveries w₂) :
      Forwards bridge logger depth w (.call entry arguments :: steps)
        (.called (r.map fun _ => .undefined) :: replies)
        (⟨f, [.string (Value.line arguments)]⟩ :: deliveries) w₂
  | lost {w w₂ : World} {entry : Entry} {arguments : List Value} {steps : List Step}
      {replies : List Reply} {deliveries : List Delivery}
      (unbound : (w.bridges bridge).resolve consoleKey = none)
      (rest : Forwards bridge logger depth (w.loseLine logger) steps replies deliveries w₂) :
      Forwards bridge logger depth w (.call entry arguments :: steps)
        (.called (.error (.missingHostFunction consoleKey)) :: replies) deliveries w₂
  | changed {w w₂ : World} {c : Bridge.Change} {steps : List Step} {replies : List Reply}
      {deliveries : List Delivery}
      (rest : Forwards bridge logger depth (w.change bridge c).2 steps replies deliveries w₂) :
      Forwards bridge logger depth w (.change c :: steps)
        (.changed (w.change bridge c).1 :: replies) deliveries w₂

/-! ## The runs of a forwarding console -/

section Runs

variable {bridge : Identity} {logger : AuditLogger} {w₀ w w' : World} {depth : Nat}

theorem perform_call_of_bound {f : Callable} (h : (w.bridges bridge).resolve consoleKey = some f)
    (entry : Entry) (arguments : List Value) :
    (Step.call entry arguments).perform (create ⟨.forward bridge, logger⟩ w₀).1 bridge depth w =
      match Callable.invoke depth f [.string (Value.line arguments)] w with
      | some (r, w₁) => some (.called (r.map fun _ => .undefined), w₁)
      | none => none := by
  simp only [Step.perform, Entry.call_eq, Invoker.write, h]
  rcases Callable.invoke depth f [.string (Value.line arguments)] w with - | ⟨_ | _, _⟩ <;> rfl

theorem perform_call_of_unbound (h : (w.bridges bridge).resolve consoleKey = none) (entry : Entry)
    (arguments : List Value) :
    (Step.call entry arguments).perform (create ⟨.forward bridge, logger⟩ w₀).1 bridge depth w =
      some (.called (.error (.missingHostFunction consoleKey)), w.loseLine logger) := by
  simp only [Step.perform, Entry.call_eq, Invoker.write, h]
  rfl

theorem perform_change (console : Console) (c : Bridge.Change) :
    (Step.change c).perform console bridge depth w =
      some (.changed (w.change bridge c).1, (w.change bridge c).2) := rfl

theorem forwards_of_run {steps : List Step} {replies : List Reply}
    (h : run (create ⟨.forward bridge, logger⟩ w₀).1 bridge depth steps w = some (replies, w')) :
    ∃ deliveries, Forwards bridge logger depth w steps replies deliveries w' := by
  induction steps generalizing w replies with
  | nil =>
    cases h
    exact ⟨[], .done _⟩
  | cons s rest ih =>
    rw [run_cons, Option.bind_eq_some_iff] at h
    obtain ⟨⟨reply, w₁⟩, hstep, h⟩ := h
    obtain ⟨⟨later, w₂⟩, hrest, h⟩ := Option.map_eq_some_iff.mp h
    cases h
    obtain ⟨deliveries, hforwards⟩ := ih hrest
    cases s with
    | call entry arguments =>
      cases hbound : (w.bridges bridge).resolve consoleKey with
      | none =>
        rw [perform_call_of_unbound hbound] at hstep
        cases hstep
        exact ⟨deliveries, .lost hbound hforwards⟩
      | some f =>
        rw [perform_call_of_bound hbound] at hstep
        split at hstep
        · rename_i hinvoked
          cases hstep
          exact ⟨_, .delivered hbound hinvoked hforwards⟩
        · cases hstep
    | change c =>
      cases hstep
      exact ⟨deliveries, .changed hforwards⟩

theorem run_of_forwards {steps : List Step} {replies : List Reply} {deliveries : List Delivery}
    (h : Forwards bridge logger depth w steps replies deliveries w') :
    run (create ⟨.forward bridge, logger⟩ w₀).1 bridge depth steps w = some (replies, w') := by
  induction h with
  | done w => rfl
  | delivered bound invoked rest ih =>
    exact run_cons_of_perform (by rw [perform_call_of_bound bound, invoked]) ih
  | lost unbound rest ih => exact run_cons_of_perform (perform_call_of_unbound unbound _ _) ih
  | changed rest ih => exact run_cons_of_perform (perform_change _ _) ih

theorem run_iff_forwards {steps : List Step} {replies : List Reply} :
    run (create ⟨.forward bridge, logger⟩ w₀).1 bridge depth steps w = some (replies, w') ↔
      ∃ deliveries, Forwards bridge logger depth w steps replies deliveries w' :=
  ⟨forwards_of_run, fun ⟨_, h⟩ => run_of_forwards h⟩

/-! ## Entries -/

/-- The step with its call, if it is one, made through a given entry. -/
def Step.through (entry : Entry) : Step → Step
  | .call _ arguments => .call entry arguments
  | .change c => .change c

theorem run_through (sink : Sink) (entry : Entry) (steps : List Step) :
    run (create sink w₀).1 bridge depth (steps.map (.through entry)) w =
      run (create sink w₀).1 bridge depth steps w := by
  induction steps generalizing w with
  | nil => rfl
  | cons s rest ih =>
    have hstep : (s.through entry).perform (create sink w₀).1 bridge depth w =
        s.perform (create sink w₀).1 bridge depth w := by
      cases s with
      | call other arguments => simp only [Step.through, Step.perform, Entry.call_eq]
      | change c => rfl
    simp only [List.map_cons, run, hstep, ih]

/-! ## Lost lines -/

theorem perform_alike (sink : Sink) (h : w.Alike w') (s : Step) :
    World.EndAlike (s.perform (create sink w₀).1 bridge depth w)
      (s.perform (create sink w₀).1 bridge depth w') := by
  cases s with
  | call entry arguments =>
    have hcall : World.EndAlike (entry.call (create sink w₀).1 depth arguments w)
        (entry.call (create sink w₀).1 depth arguments w') := by
      rw [Entry.call_eq, Entry.call_eq]
      exact ((Callable.invoke_alike depth).write h sink arguments).map _
    simp only [Step.perform]
    generalize entry.call (create sink w₀).1 depth arguments w = o at hcall ⊢
    generalize entry.call (create sink w₀).1 depth arguments w' = o' at hcall ⊢
    cases hcall with
    | unfinished => exact .unfinished
    | finished r hw => exact .finished (Reply.called r) hw
  | change c =>
    obtain ⟨hprevious, hw⟩ := h.change bridge c
    rw [perform_change, perform_change, hprevious]
    exact .finished _ hw

/-- Runs that start from worlds with different records end alike. -/
theorem run_alike (sink : Sink) (h : w.Alike w') (steps : List Step) :
    World.EndAlike (run (create sink w₀).1 bridge depth steps w)
      (run (create sink w₀).1 bridge depth steps w') := by
  induction steps generalizing w w' with
  | nil => exact .finished [] h
  | cons s rest ih =>
    have hstep := @perform_alike bridge w₀ w w' depth sink h s
    simp only [run]
    generalize s.perform (create sink w₀).1 bridge depth w = o at hstep ⊢
    generalize s.perform (create sink w₀).1 bridge depth w' = o' at hstep ⊢
    cases hstep with
    | unfinished => exact .unfinished
    | @finished reply w₁ w₁' hw =>
      have hrest := ih hw
      simp only
      generalize run (create sink w₀).1 bridge depth rest w₁ = r at hrest ⊢
      generalize run (create sink w₀).1 bridge depth rest w₁' = r' at hrest ⊢
      cases hrest with
      | unfinished => exact .unfinished
      | finished replies hw => exact .finished (reply :: replies) hw

/-! ## Hosts that report their lines -/

/-- What is bound, if anything, reports its calls. -/
def Reporting (bound : Option Behaviour) : Prop := ∀ b, bound = some b → ∃ tag, b = .report tag

/-- The reports of the lines of some steps, one for each call that is made while the key for lines
is bound, under the tag of what it is bound to then. -/
def reports : Option Behaviour → List Step → List HostCall
  | _, [] => []
  | bound, .call _ arguments :: rest =>
    match bound with
    | some (.report tag) => .reported tag [.string (Value.line arguments)] :: reports bound rest
    | _ => reports bound rest
  | bound, .change c :: rest => reports (c.binding consoleKey bound) rest

/-- What the key for lines is bound to. -/
def bound (w : World) (bridge : Identity) : Option Behaviour :=
  ((w.bridges bridge).resolve consoleKey).map Callable.behaviour

theorem reporting_binding {b : Option Behaviour} {c : Bridge.Change} (hb : Reporting b)
    (hc : Reporting (c.binding consoleKey none)) : Reporting (c.binding consoleKey b) := by
  cases c with
  | register key f =>
    simp only [Bridge.Change.binding] at hc ⊢
    split
    · rename_i h
      rwa [if_pos h] at hc
    · exact hb
  | registerNew key b' =>
    simp only [Bridge.Change.binding] at hc ⊢
    split
    · rename_i h
      rwa [if_pos h] at hc
    · exact hb
  | unregister key =>
    simp only [Bridge.Change.binding]
    split
    · intro b' hb'
      cases hb'
    · exact hb

theorem invoke_reporting {f : Callable} {tag : String} (hf : f.behaviour = .report tag)
    (arguments : List Value) :
    Callable.invoke (depth + 1) f arguments w = some (w.receive (.reported tag arguments)) := by
  simp only [Callable.invoke, hf]
  rfl

/-- When only reporting callables are ever bound, every call is reported as long as there is one,
and the reports are all that the host receives. -/
theorem run_reporting {steps : List Step} (hw : Reporting (bound w bridge))
    (hsteps : ∀ c, Step.change c ∈ steps → Reporting (c.binding consoleKey none)) :
    ∃ replies w',
      run (create ⟨.forward bridge, logger⟩ w₀).1 bridge (depth + 1) steps w = some (replies, w') ∧
      w'.calls = w.calls ++ reports (bound w bridge) steps := by
  induction steps generalizing w with
  | nil => exact ⟨[], w, rfl, by simp [reports]⟩
  | cons s rest ih =>
    have hrest : ∀ c, Step.change c ∈ rest → Reporting (c.binding consoleKey none) :=
      fun c hc => hsteps c (List.mem_cons_of_mem _ hc)
    cases s with
    | change c =>
      have hbound : bound (w.change bridge c).2 bridge = c.binding consoleKey (bound w bridge) :=
        w.resolve_change bridge c consoleKey
      have hreporting : Reporting (bound (w.change bridge c).2 bridge) := by
        rw [hbound]
        exact reporting_binding hw (hsteps c List.mem_cons_self)
      obtain ⟨replies, w', hrun, hcalls⟩ := ih hreporting hrest
      rw [hbound, World.calls_change] at hcalls
      exact ⟨_, w', run_cons_of_perform (perform_change _ c) hrun, hcalls⟩
    | call entry arguments =>
      cases hresolve : (w.bridges bridge).resolve consoleKey with
      | none =>
        have halike := World.Alike.loseLine w logger
        have hbound : bound (w.loseLine logger) bridge = bound w bridge := by
          simp only [bound, halike.bridges]
        obtain ⟨replies, w', hrun, hcalls⟩ := ih (hbound.symm ▸ hw) hrest
        have hnone : bound w bridge = none := by simp only [bound, hresolve, Option.map_none]
        rw [hbound, halike.calls, hnone] at hcalls
        refine ⟨_, w', run_cons_of_perform (perform_call_of_unbound hresolve _ _) hrun, ?_⟩
        rw [hnone]
        exact hcalls
      | some f =>
        have hsome : bound w bridge = some f.behaviour := by
          simp only [bound, hresolve, Option.map_some]
        obtain ⟨tag, htag⟩ := hw _ hsome
        let call : HostCall := .reported tag [.string (Value.line arguments)]
        have hbound : bound (w.receive call).2 bridge = bound w bridge := rfl
        obtain ⟨replies, w', hrun, hcalls⟩ := ih (hbound.symm ▸ hw) hrest
        have hstep :=
          @perform_call_of_bound bridge logger w₀ w (depth + 1) f hresolve entry arguments
        rw [invoke_reporting htag] at hstep
        refine ⟨_, w', run_cons_of_perform hstep hrun, ?_⟩
        rw [hcalls, hbound, hsome, htag]
        simp [World.receive, call, reports]

end Runs

/-! ## The whole law -/

/-- What a console that forwards to a bridge does, at any time and in any run of calls and of
changes of the bridge. Its runs are those of the law, so a line goes to the callable that is bound
when the call is made, and to no other. All entries are interchangeable. A lost line is one audit
event of the console's logger; it leaves the rest of the world alone, and later steps end as they
would have without it. A host that reports its lines receives each of them once, in the order of the
calls. -/
theorem forwarding_law (bridge : Identity) (logger : AuditLogger) (w₀ : World) :
    let console := (create ⟨.forward bridge, logger⟩ w₀).1
    ∀ (depth : Nat) (steps : List Step) (w : World),
      (∀ replies w', run console bridge depth steps w = some (replies, w') ↔
        ∃ deliveries, Forwards bridge logger depth w steps replies deliveries w') ∧
      (∀ entry, run console bridge depth (steps.map (.through entry)) w =
        run console bridge depth steps w) ∧
      (w.Recorded (w.loseLine logger) logger [.hostFunctionMissing consoleKey] ∧
        w.Alike (w.loseLine logger) ∧
        World.EndAlike (run console bridge depth steps w)
          (run console bridge depth steps (w.loseLine logger))) ∧
      (Reporting (bound w bridge) →
        (∀ c, Step.change c ∈ steps → Reporting (c.binding consoleKey none)) →
        ∃ replies w', run console bridge (depth + 1) steps w = some (replies, w') ∧
          w'.calls = w.calls ++ reports (bound w bridge) steps) := by
  intro console depth steps w
  have halike : w.Alike (w.loseLine logger) := .loseLine w logger
  have hrecorded : w.Recorded (w.loseLine logger) logger [.hostFunctionMissing consoleKey] :=
    w.recorded_emit_audit rfl logger _
  refine ⟨fun replies w' => run_iff_forwards, fun entry => run_through _ entry steps, ?_, ?_⟩
  · exact ⟨hrecorded, halike, run_alike _ halike steps⟩
  · exact fun hw hsteps => run_reporting hw hsteps

/-- The host function is replaced, removed and put back between calls through several entries. The
call in between is lost. -/
theorem forwarding_law_interleaved :
    let w := World.initial ⟨0, 0⟩ fun _ => HostCall.plainAnswer
    let console := (create ⟨.forward 0, .keeping 9⟩ w).1
    let steps : List Step := [
      .change (.registerNew consoleKey (.report "first")), .call .host [.string "a", .null],
      .change (.unregister consoleKey), .call (.method "warn" (by decide)) [.string "lost"],
      .change (.register consoleKey (.mk 3 (.report "second"))),
      .call (.method "trace" (by decide)) []]
    ∃ replies w', run console 0 1 steps w = some (replies, w') ∧
      w'.calls = [.reported "first" [.string "a null"], .reported "second" [.string ""]] ∧
      w'.heard (.keeping 9) = [.hostFunctionMissing consoleKey] := by
  intro w console steps
  obtain ⟨-, -, -, hreporting⟩ := forwarding_law 0 (.keeping 9) w 0 steps w
  have hw : Reporting (bound w 0) := by
    rintro b ⟨⟩
  have hsteps : ∀ c, Step.change c ∈ steps → Reporting (c.binding consoleKey none) := by
    intro c hc
    simp only [steps, List.mem_cons, Step.change.injEq, reduceCtorEq, List.not_mem_nil, or_false,
      false_or] at hc
    rcases hc with rfl | rfl | rfl
    · rintro b ⟨⟩
      exact ⟨"first", rfl⟩
    · rintro b ⟨⟩
    · rintro b ⟨⟩
      exact ⟨"second", rfl⟩
  obtain ⟨replies, w', hrun, hcalls⟩ := hreporting hw hsteps
  refine ⟨replies, w', hrun, hcalls, ?_⟩
  have hheard : (run console 0 1 steps w).map (fun p => p.2.heard (.keeping 9)) =
      some [.hostFunctionMissing consoleKey] := rfl
  rw [hrun] at hheard
  exact Option.some.inj hheard

end Console

end CapabilityGateway
