import CapabilityGateway.Proofs.Host.Bridge
import CapabilityGateway.Proofs.Host.Coupling

/-!
# Worlds that differ in their records

The trace and the audit logs are written and never read while calls are carried out. So two worlds
that differ in nothing else answer every call alike, and still differ in nothing else afterwards.

* `World.Alike`: the worlds agree in everything but their records.
* `Callable.invoke_alike`: calls do not tell such worlds apart.
-/

namespace CapabilityGateway

/-- The worlds differ at most in their traces and audit logs. -/
structure World.Alike (w w' : World) : Prop where
  next : w'.next = w.next
  bridges : w'.bridges = w.bridges
  transports : w'.transports = w.transports
  calls : w'.calls = w.calls
  now : w'.now = w.now
  answer : w'.answer = w.answer

/-- Two computations end alike: with the same result and worlds that are alike, or neither ends. -/
inductive World.EndAlike {ρ : Type} : Option (ρ × World) → Option (ρ × World) → Prop where
  | unfinished : EndAlike none none
  | finished (r : ρ) {w w' : World} (h : w.Alike w') : EndAlike (some (r, w)) (some (r, w'))

namespace World.Alike

variable {w w' : World}

theorem trans {w'' : World} (h₁ : w.Alike w') (h₂ : w'.Alike w'') : w.Alike w'' where
  next := h₂.next.trans h₁.next
  bridges := h₂.bridges.trans h₁.bridges
  transports := h₂.transports.trans h₁.transports
  calls := h₂.calls.trans h₁.calls
  now := h₂.now.trans h₁.now
  answer := h₂.answer.trans h₁.answer

theorem symm (h : w.Alike w') : w'.Alike w :=
  ⟨h.next.symm, h.bridges.symm, h.transports.symm, h.calls.symm, h.now.symm, h.answer.symm⟩

/-! ## Records -/

theorem emit (w : World) (event : TraceEvent) : w.Alike (w.emit event) :=
  ⟨rfl, rfl, rfl, rfl, rfl, rfl⟩

theorem audit (w : World) (logger : AuditLogger) (event : AuditEvent) :
    w.Alike (w.audit logger event) := by
  cases logger <;> exact ⟨rfl, rfl, rfl, rfl, rfl, rfl⟩

theorem loseLine (w : World) (logger : AuditLogger) : w.Alike (w.loseLine logger) :=
  (emit w _).trans (audit _ logger _)

/-! ## Changes of both worlds -/

theorem fresh (h : w.Alike w') : World.Match World.Alike w.fresh w'.fresh :=
  ⟨h.next, ⟨congrArg (· + 1) h.next, h.bridges, h.transports, h.calls, h.now, h.answer⟩⟩

theorem register (h : w.Alike w') (bridge : Identity) (key : String) (f : Callable) :
    World.Match World.Alike (w.register bridge key f) (w'.register bridge key f) := by
  simp only [World.register, h.bridges]
  exact ⟨rfl, h.next, rfl, h.transports, h.calls, h.now, h.answer⟩

theorem unregister (h : w.Alike w') (bridge : Identity) (key : String) :
    World.Match World.Alike (w.unregister bridge key) (w'.unregister bridge key) := by
  simp only [World.unregister, h.bridges]
  exact ⟨rfl, h.next, rfl, h.transports, h.calls, h.now, h.answer⟩

theorem change (h : w.Alike w') (bridge : Identity) (c : Bridge.Change) :
    World.Match World.Alike (w.change bridge c) (w'.change bridge c) := by
  cases c with
  | register key f => exact h.register bridge key f
  | registerNew key b =>
    obtain ⟨hidentity, hw⟩ := h.fresh
    simp only [World.change, newCallable, hidentity]
    exact hw.register bridge key _
  | unregister key => exact h.unregister bridge key

theorem receive (h : w.Alike w') (call : HostCall) :
    World.Match World.Alike (w.receive call) (w'.receive call) := by
  simp only [World.receive, h.answer, h.calls]
  exact ⟨rfl, h.next, h.bridges, h.transports, rfl, h.now, rfl⟩

/-- Nothing that a call can do reads records, so nothing is kept from worlds that differ in them. -/
def coupling : Coupling where
  worlds := World.Alike
  behaviours _ := True
  values _ := True
  plain _ _ := trivial
  array _ _ _ := trivial
  constant _ _ := trivial
  inTurn _ _ _ _ := trivial
  exactly _ _ _ _ := trivial
  fresh _ _ h := h.fresh
  receive _ _ call h := h.receive call
  received _ _ _ _ _ _ := trivial
  resolve _ _ _ _ h := by rw [h.bridges]
  resolved _ _ _ _ _ _ _ := trivial
  register _ _ bridge key f _ h := h.register bridge key f
  unregister _ _ bridge key h := h.unregister bridge key
  handler _ _ _ _ _ h := by rw [h.transports]
  handled _ _ _ _ _ _ _ _ := trivial
  loseLine w w' sink _ h := ((loseLine w _).symm.trans h).trans (loseLine w' sink.logger)

end World.Alike

namespace World.EndAlike

theorem map {α β : Type} {o o' : Outcome α} (h : EndAlike o o') (f : α → β) :
    EndAlike (o.map f) (o'.map f) := by
  cases h with
  | unfinished => exact .unfinished
  | finished r h =>
    cases r with
    | error e => exact finished (Except.error e) h
    | ok a => exact finished (Except.ok (f a)) h

end World.EndAlike

/-! ## Calls -/

/-- What the invoker calls does not read records. -/
def Invoker.Unobserving (invoke : Invoker) : Prop :=
  ∀ f arguments w w', w.Alike w' →
    World.EndAlike (invoke f arguments w) (invoke f arguments w')

namespace Invoker.Unobserving

variable {invoke : Invoker} {w w' : World}

/-- A lost line adds to the records of both worlds. -/
theorem write (hi : invoke.Unobserving) (h : w.Alike w') (sink : Sink) (arguments : List Value) :
    World.EndAlike (invoke.write sink arguments w) (invoke.write sink arguments w') := by
  unfold Invoker.write
  cases sink.mode with
  | discard => exact .finished _ h
  | forward bridge =>
    simp only [h.bridges]
    cases (w.bridges bridge).resolve consoleKey with
    | some f => exact (hi f _ w w' h).map _
    | none =>
      have hleft : (w.loseLine sink.logger).Alike w' := (World.Alike.loseLine w _).symm.trans h
      exact .finished _ (hleft.trans (World.Alike.loseLine w' sink.logger))

end Invoker.Unobserving

/-- However deep a call may go, it does not read records. -/
theorem Callable.invoke_alike (depth : Nat) : Invoker.Unobserving (Callable.invoke depth) := by
  intro f arguments w w' h
  have hends := World.Alike.coupling.invoke depth f arguments w w' trivial (fun _ _ => trivial) h
  generalize Callable.invoke depth f arguments w = o at hends ⊢
  generalize Callable.invoke depth f arguments w' = o' at hends ⊢
  cases hends with
  | unfinished => exact .unfinished
  | finished _ h => exact .finished _ h

end CapabilityGateway
