import CapabilityGateway.Proofs.Audit.Recording
import CapabilityGateway.Proofs.Host.Alike

/-!
# What the audit hears of calls

A call can lead anywhere: through bridges and transports, to other callables and into consoles. All
that an audit logger can ever hear of it is that console lines were lost. In particular calls tell
nothing of contexts and nothing of capabilities.

* `World.LosesLines`: between two worlds every logger has heard of lost lines at most.
* `Callable.invoke_losesLines`: calls lead to such worlds only.
-/

namespace CapabilityGateway

namespace World

variable {w w' : World}

/-- Whatever a logger has heard between the two worlds, it was that lines were lost. -/
def LosesLines (w w' : World) : Prop :=
  ∀ l, ∃ n, w'.heard l = w.heard l ++ List.replicate n (.hostFunctionMissing consoleKey)

namespace LosesLines

theorem of_heard_eq (h : ∀ l, w'.heard l = w.heard l) : w.LosesLines w' := by
  intro l
  refine ⟨0, ?_⟩
  rw [h l, List.replicate_zero, List.append_nil]

theorem refl (w : World) : w.LosesLines w := of_heard_eq fun _ => rfl

theorem trans {w'' : World} (h₁ : w.LosesLines w') (h₂ : w'.LosesLines w'') :
    w.LosesLines w'' := by
  intro l
  obtain ⟨m, hm⟩ := h₁ l
  obtain ⟨n, hn⟩ := h₂ l
  refine ⟨m + n, ?_⟩
  rw [hn, hm, List.append_assoc, List.replicate_append_replicate]

theorem loseLine (w : World) (logger : AuditLogger) : w.LosesLines (w.loseLine logger) := by
  intro l
  have hrecorded : w.Recorded (w.loseLine logger) logger [.hostFunctionMissing consoleKey] :=
    w.recorded_emit_audit rfl logger _
  by_cases hsilent : l = .silent
  · exact ⟨0, by rw [hsilent]; rfl⟩
  · have hl := hrecorded l hsilent
    by_cases hlogger : l = logger
    · exact ⟨1, by rw [hl, if_pos hlogger]; rfl⟩
    · exact ⟨0, by rw [hl, if_neg hlogger]; rfl⟩

theorem fresh (w : World) : w.LosesLines w.fresh.2 :=
  of_heard_eq fun l => by cases l <;> rfl

theorem register (w : World) (bridge : Identity) (key : String) (f : Callable) :
    w.LosesLines (w.register bridge key f).2 :=
  of_heard_eq fun l => by cases l <;> rfl

theorem unregister (w : World) (bridge : Identity) (key : String) :
    w.LosesLines (w.unregister bridge key).2 :=
  of_heard_eq fun l => by cases l <;> rfl

theorem change (w : World) (bridge : Identity) (c : Bridge.Change) :
    w.LosesLines (w.change bridge c).2 := by
  cases c with
  | register key f => exact register w bridge key f
  | registerNew key behaviour => exact (fresh w).trans (register _ bridge key _)
  | unregister key => exact unregister w bridge key

theorem receive (w : World) (call : HostCall) : w.LosesLines (w.receive call).2 :=
  of_heard_eq fun l => by cases l <;> rfl

end LosesLines

end World

/-! ## Calls -/

/-- Wherever the computation ends, lines were lost on the way at most. -/
def Outcome.LosesLines {α : Type} (w : World) (o : Outcome α) : Prop :=
  ∀ r w', o = some (r, w') → w.LosesLines w'

namespace Outcome.LosesLines

variable {α β : Type} {w w₁ : World} {r : Except Fault α}

theorem ended (h : w.LosesLines w₁) : Outcome.LosesLines w (some (r, w₁)) := by
  rintro _ _ ⟨⟩
  exact h

theorem unfinished : Outcome.LosesLines w (none : Outcome α) := by
  rintro _ _ ⟨⟩

theorem map {o : Outcome α} (h : Outcome.LosesLines w o) (f : α → β) :
    Outcome.LosesLines w (o.map f) := by
  cases o with
  | none => exact unfinished
  | some p =>
    obtain ⟨r, w₁⟩ := p
    cases r <;> exact ended (h _ w₁ rfl)

end Outcome.LosesLines

/-- What the invoker calls loses lines at most. -/
def Invoker.LosesLines (invoke : Invoker) : Prop :=
  ∀ f arguments w, Outcome.LosesLines w (invoke f arguments w)

namespace Invoker.LosesLines

open Outcome.LosesLines

variable {invoke : Invoker}

theorem call (hi : invoke.LosesLines) (v : Value) (arguments : List Value) (w : World) :
    Outcome.LosesLines w (invoke.call v arguments w) := by
  cases v with
  | function f => exact hi f arguments w
  | _ => exact ended (.refl w)

theorem write (hi : invoke.LosesLines) (sink : Sink) (arguments : List Value) (w : World) :
    Outcome.LosesLines w (invoke.write sink arguments w) := by
  unfold Invoker.write
  cases sink.mode with
  | discard => exact ended (.refl w)
  | forward bridge =>
    simp only
    cases (w.bridges bridge).resolve consoleKey with
    | some f => exact (hi f _ w).map _
    | none => exact ended (.loseLine w sink.logger)

end Invoker.LosesLines

/-- Every world that a call can lead to is one where lines were lost at most. -/
theorem World.LosesLines.invariant (w₀ : World) :
    World.Invariant w₀.LosesLines fun _ => True where
  inTurn _ _ _ _ := trivial
  exactly _ _ _ _ := trivial
  fresh w hw := hw.trans (.fresh w)
  receive w call hw := hw.trans (.receive w call)
  resolved _ _ _ _ _ _ := trivial
  register w bridge key f _ hw := hw.trans (.register w bridge key f)
  unregister w bridge key hw := hw.trans (.unregister w bridge key)
  handled _ _ _ _ _ _ := trivial
  loseLine w sink _ hw := hw.trans (.loseLine w sink.logger)

/-- However deep a call may go, the audit hears of lost lines at most. -/
theorem Callable.invoke_losesLines (depth : Nat) : Invoker.LosesLines (Callable.invoke depth) :=
  fun _ _ w _ _ hcall => (World.LosesLines.invariant w).invoke trivial (.refl w) hcall

end CapabilityGateway
