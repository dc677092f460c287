import CapabilityGateway.Capability.Install

/-!
# What the audit hears

An audit logger keeps events in a log or passes them on to the trace. `World.heard` reads both ways
back as one list of events, so that "these events were recorded" means the same for every logger.

* `World.Recorded`: between two worlds exactly some events were recorded, all of them by one logger.
* `World.recorded_audit`, `World.recorded_emit`, `World.Recorded.trans`: how records come about.
* `Installation.recorded_announce`: what an installation records.
-/

namespace CapabilityGateway

/-- The audit event that a trace event passes on. -/
def TraceEvent.audited? : TraceEvent → Option AuditEvent
  | .audited event => some event
  | _ => none

namespace World

/-- The events that reached a logger, in order. -/
def heard (w : World) : AuditLogger → List AuditEvent
  | .silent => []
  | .keeping log => (w.logs log).map (·.event)
  | .tracing => w.trace.filterMap TraceEvent.audited?

/-- Exactly these events were recorded between the two worlds, and only `logger` recorded them. A
silent logger records nothing, so for it no logger has heard of anything. -/
def Recorded (w w' : World) (logger : AuditLogger) (events : List AuditEvent) : Prop :=
  ∀ l, l ≠ .silent → w'.heard l = w.heard l ++ if l = logger then events else []

@[simp] theorem heard_silent (w : World) : w.heard .silent = [] := rfl

theorem Recorded.refl (w : World) (logger : AuditLogger) : w.Recorded w logger [] := by
  intro l _
  simp

theorem Recorded.trans {w₁ w₂ w₃ : World} {logger : AuditLogger} {es fs : List AuditEvent}
    (h₁ : w₁.Recorded w₂ logger es) (h₂ : w₂.Recorded w₃ logger fs) :
    w₁.Recorded w₃ logger (es ++ fs) := by
  intro l hl
  rw [h₂ l hl, h₁ l hl]
  split <;> simp

theorem recorded_emit (w : World) {event : TraceEvent} (h : event.audited? = none)
    (logger : AuditLogger) : w.Recorded (w.emit event) logger [] := by
  intro l hl
  cases l with
  | silent => exact absurd rfl hl
  | keeping log => simp [heard, emit]
  | tracing => simp [heard, emit, h]

theorem recorded_audit (w : World) (logger : AuditLogger) (event : AuditEvent) :
    w.Recorded (w.audit logger event) logger [event] := by
  intro l hl
  cases logger with
  | silent => simp [audit, hl]
  | keeping log =>
    cases l with
    | silent => exact absurd rfl hl
    | keeping other =>
      by_cases he : other = log
      · simp [audit, heard, replace, he]
      · simp [audit, heard, replace, he]
    | tracing => simp [audit, heard]
  | tracing =>
    cases l with
    | silent => exact absurd rfl hl
    | keeping other => simp [audit, heard, emit]
    | tracing => simp [audit, heard, emit, TraceEvent.audited?]

/-- A trace event followed by an audit event is how the gateway tells of something. -/
theorem recorded_emit_audit (w : World) {event : TraceEvent} (h : event.audited? = none)
    (logger : AuditLogger) (audited : AuditEvent) :
    w.Recorded ((w.emit event).audit logger audited) logger [audited] :=
  (w.recorded_emit h logger).trans (recorded_audit _ logger audited)

/-- A new logger has heard of nothing. -/
theorem heard_newLog (w : World) : w.newLog.2.heard w.newLog.1 = [] := by
  simp [newLog, fresh, heard, replace]

theorem newLog_ne_silent (w : World) : w.newLog.1 ≠ .silent := by
  simp [newLog, fresh]

end World

namespace Installation

/-- What the audit learns from a notice. -/
def Notice.event? : Notice → Option AuditEvent
  | .installed name => some (.capabilityInstalled name)
  | .present _ => none
  | .collided name => some (.capabilityCollision name)

theorem Notice.recorded_announce (logger : AuditLogger) (w : World) (n : Notice) :
    w.Recorded (n.announce logger w) logger n.event?.toList := by
  cases n with
  | installed name => exact w.recorded_emit_audit rfl logger _
  | present name => exact w.recorded_emit rfl logger
  | collided name => exact w.recorded_emit_audit rfl logger _

theorem recorded_announce_notices (logger : AuditLogger) (notices : List Notice) (w : World) :
    w.Recorded (notices.foldl (Notice.announce logger) w) logger
      (notices.filterMap Notice.event?) := by
  induction notices generalizing w with
  | nil => exact .refl w logger
  | cons n rest ih =>
    have hhead := n.recorded_announce logger w
    have hrest := ih (n.announce logger w)
    have hevents : (n :: rest).filterMap Notice.event? =
        n.event?.toList ++ rest.filterMap Notice.event? := by
      cases hn : n.event? <;> simp [hn]
    rw [List.foldl_cons, hevents]
    exact hhead.trans hrest

theorem recorded_announce (i : Installation) (logger : AuditLogger) (w : World) :
    w.Recorded (i.announce logger w) logger (i.notices.filterMap Notice.event?) :=
  recorded_announce_notices logger i.notices w

end Installation

end CapabilityGateway
