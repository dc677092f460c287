import CapabilityGateway.Proofs.Audit.Recording
import CapabilityGateway.Proofs.Audit.Sinks

/-!
# The audit log agrees with the trace

The gateway reports twice: to an audit logger, and to whoever watches the trace. Whatever the audit
is to hear of is traced as well, right before and with the same particulars, and some other events
are only traced. So when everything reports to one logger, what the logger has heard can be read off
the trace, however installations, calls, constructions of contexts and their ends are interleaved.

Calls can lead to any console that a bridge or a transport leads to. `World.ReportsTo` says that
each of these reports to the logger, and every step keeps it so.

* `TraceEvent.told?`: what the audit hears of a trace event.
* `World.Follows`: between two worlds the logger heard exactly what the trace tells.
* `Callable.invoke_follows`, `Context.reported_create`: calls and constructions lead to such worlds.
-/

namespace CapabilityGateway

namespace TraceEvent

/-- The audit event that says the same as a trace event, if the audit is to hear of it. -/
def told? : TraceEvent → Option AuditEvent
  | .capabilityInstalled name => some (.capabilityInstalled name)
  | .capabilityCollision name => some (.capabilityCollision name)
  | .lineDropped key => some (.hostFunctionMissing key)
  | .contextCreated context capabilities => some (.contextCreated context capabilities)
  | .contextDestroyed context => some (.contextDestroyed context)
  | .consoleCreated _ | .capabilityPresent _ | .audited _ => none

/-- The messages of the trace events that the audit is to hear of. -/
def tellingMessages : List String := [
  "capability installed", "capability collides with an existing fixed global",
  "console call dropped: host function not registered", "sandbox context created",
  "sandbox context destroyed"]

theorem head?_append {s : String} {c : Char} (h : s.toList.head? = some c) (t : String) :
    (s ++ t).toList.head? = some c := by
  rw [String.toList_append, List.head?_append, h]
  rfl

theorem head?_sentence (event : AuditEvent) :
    event.sentence.toList.head? = some 'C' ∨ event.sentence.toList.head? = some 'H' := by
  have hcontext : "Context created: ".toList.head? = some 'C' := by decide
  cases event with
  | contextCreated context capabilities =>
    exact .inl (head?_append (head?_append (head?_append (head?_append hcontext _) _) _) _)
  | contextDestroyed context => exact .inl (head?_append (by decide) _)
  | capabilityInstalled name => exact .inl (head?_append (by decide) _)
  | capabilityCollision name => exact .inl (head?_append (by decide) _)
  | hostFunctionMissing key => exact .inr (head?_append (by decide) _)

/-- The sentence of an audit event that went to the trace begins with a capital letter, and none of
the messages does. -/
theorem sentence_not_mem (event : AuditEvent) : event.sentence ∉ tellingMessages := by
  intro h
  have hsmall : ∀ s ∈ tellingMessages,
      s.toList.head? ≠ some 'C' ∧ s.toList.head? ≠ some 'H' := by
    decide
  rcases head?_sentence event with hC | hH
  · exact (hsmall _ h).1 hC
  · exact (hsmall _ h).2 hH

/-- The message tells which trace events the audit is to hear of. -/
theorem isSome_told?_iff (event : TraceEvent) :
    event.told?.isSome = true ↔ event.message ∈ tellingMessages := by
  cases event with
  | audited event => exact iff_of_false Bool.false_ne_true (sentence_not_mem event)
  | consoleCreated mode =>
    have hmessage : "console shim created" ∉ tellingMessages := by decide
    exact iff_of_false Bool.false_ne_true hmessage
  | capabilityPresent name =>
    have hmessage : "capability already installed" ∉ tellingMessages := by decide
    exact iff_of_false Bool.false_ne_true hmessage
  | _ => exact iff_of_true rfl (by simp [message, tellingMessages])

end TraceEvent

namespace World

variable {w w' w'' : World} {logger : AuditLogger}

/-! ## The logger and the trace -/

/-- What the logger heard between the two worlds is what was traced between them, as far as the
audit is to hear of it. -/
def Echoes (w w' : World) (logger : AuditLogger) : Prop :=
  ∃ emitted, w'.trace = w.trace ++ emitted ∧
    w'.heard logger = w.heard logger ++ emitted.filterMap TraceEvent.told?

namespace Echoes

theorem of_eq (htrace : w'.trace = w.trace) (hheard : w'.heard logger = w.heard logger) :
    w.Echoes w' logger :=
  ⟨[], by rw [htrace, List.append_nil], by rw [hheard, List.filterMap_nil, List.append_nil]⟩

theorem trans (h₁ : w.Echoes w' logger) (h₂ : w'.Echoes w'' logger) : w.Echoes w'' logger := by
  obtain ⟨first, htrace₁, hheard₁⟩ := h₁
  obtain ⟨second, htrace₂, hheard₂⟩ := h₂
  refine ⟨first ++ second, ?_, ?_⟩
  · rw [htrace₂, htrace₁, List.append_assoc]
  · rw [hheard₂, hheard₁, List.filterMap_append, List.append_assoc]

/-- A trace event that is only traced. -/
theorem emit (hlogger : logger ≠ .silent) (w : World) {event : TraceEvent}
    (htold : event.told? = none) (haudited : event.audited? = none) :
    w.Echoes (w.emit event) logger := by
  have hheard := w.recorded_emit haudited logger logger hlogger
  rw [if_pos rfl] at hheard
  exact ⟨[event], rfl, by rw [hheard, List.filterMap_cons_none htold, List.filterMap_nil]⟩

/-- A trace event together with the audit event that says the same. A logger that passes events on
to the trace adds one there, of which the audit does not hear again. -/
theorem emit_audit (hlogger : logger ≠ .silent) (w : World) {event : TraceEvent}
    {told : AuditEvent} (htold : event.told? = some told) :
    w.Echoes ((w.emit event).audit logger told) logger := by
  have haudited : event.audited? = none := by
    cases event with
    | audited _ => cases htold
    | _ => rfl
  have hheard := w.recorded_emit_audit haudited logger told logger hlogger
  rw [if_pos rfl] at hheard
  rw [Echoes, hheard]
  cases logger with
  | silent => exact absurd rfl hlogger
  | keeping log => exact ⟨[event], rfl, by rw [List.filterMap_cons_some htold, List.filterMap_nil]⟩
  | tracing =>
    refine ⟨[event, .audited told], ?_, ?_⟩
    · simp [audit, World.emit]
    · rw [List.filterMap_cons_some htold]
      rfl

end Echoes

/-- The logger heard what the trace tells, and the host still reports to the logger. -/
structure Follows (logger : AuditLogger) (w w' : World) : Prop where
  reports : w'.ReportsTo logger
  echoes : w.Echoes w' logger

namespace Follows

theorem refl (h : w.ReportsTo logger) : w.Follows logger w := ⟨h, .of_eq rfl rfl⟩

theorem trans (h₁ : w.Follows logger w') (h₂ : w'.Follows logger w'') : w.Follows logger w'' :=
  ⟨h₂.reports, h₁.echoes.trans h₂.echoes⟩

theorem next (h : w.ReportsTo logger) (i : Identity) : w.Follows logger { w with next := i } :=
  ⟨h.next i, .of_eq rfl (by cases logger <;> rfl)⟩

theorem receive (h : w.ReportsTo logger) (call : HostCall) :
    w.Follows logger (w.receive call).2 :=
  ⟨h.receive call, .of_eq rfl (by cases logger <;> rfl)⟩

theorem register (h : w.ReportsTo logger) (bridge : Identity) (key : String) {f : Callable}
    (hf : f.ReportsTo logger) : w.Follows logger (w.register bridge key f).2 :=
  ⟨h.register bridge key hf, .of_eq rfl (by cases logger <;> rfl)⟩

theorem unregister (h : w.ReportsTo logger) (bridge : Identity) (key : String) :
    w.Follows logger (w.unregister bridge key).2 :=
  ⟨h.unregister bridge key, .of_eq rfl (by cases logger <;> rfl)⟩

theorem emit (hlogger : logger ≠ .silent) (h : w.ReportsTo logger) {event : TraceEvent}
    (htold : event.told? = none) (haudited : event.audited? = none) :
    w.Follows logger (w.emit event) :=
  ⟨h.of_alike (.emit w event), .emit hlogger w htold haudited⟩

theorem emit_audit (hlogger : logger ≠ .silent) (h : w.ReportsTo logger) {event : TraceEvent}
    {told : AuditEvent} (htold : event.told? = some told) :
    w.Follows logger ((w.emit event).audit logger told) :=
  ⟨h.of_alike ((Alike.emit w event).trans (.audit _ logger told)), .emit_audit hlogger w htold⟩

end Follows

end World

/-! ## Calls -/

/-- Wherever the computation ends, the logger has heard what the trace tells. -/
def Outcome.Follows {α : Type} (logger : AuditLogger) (w : World) (o : Outcome α) : Prop :=
  ∀ r w', o = some (r, w') → w.Follows logger w'

namespace Outcome.Follows

variable {α β : Type} {logger : AuditLogger} {w w₁ : World} {r : Except Fault α}

theorem ended (h : w.Follows logger w₁) : Outcome.Follows logger w (some (r, w₁)) := by
  rintro _ _ ⟨⟩
  exact h

theorem unfinished : Outcome.Follows logger w (none : Outcome α) := by
  rintro _ _ ⟨⟩

theorem map {o : Outcome α} (h : Outcome.Follows logger w o) (f : α → β) :
    Outcome.Follows logger w (o.map f) := by
  cases o with
  | none => exact unfinished
  | some p =>
    obtain ⟨r, w₁⟩ := p
    cases r <;> exact ended (h _ w₁ rfl)

end Outcome.Follows

/-- The invoker keeps the logger up with the trace, as long as all reports go to the logger. -/
def Invoker.Follows (logger : AuditLogger) (invoke : Invoker) : Prop :=
  ∀ f arguments w, f.ReportsTo logger → w.ReportsTo logger →
    Outcome.Follows logger w (invoke f arguments w)

namespace Invoker.Follows

open Outcome.Follows

variable {logger : AuditLogger} {invoke : Invoker} {w : World}

theorem call (hi : invoke.Follows logger) {v : Value} (hv : v.ReportsTo logger)
    (arguments : List Value) (hw : w.ReportsTo logger) :
    Outcome.Follows logger w (invoke.call v arguments w) := by
  cases v with
  | function f => exact hi f arguments w hv.callable hw
  | _ => exact ended (.refl hw)

theorem write (hlogger : logger ≠ .silent) (hi : invoke.Follows logger) {sink : Sink}
    (hsink : sink.logger = logger) (arguments : List Value) (hw : w.ReportsTo logger) :
    Outcome.Follows logger w (invoke.write sink arguments w) := by
  subst hsink
  unfold Invoker.write
  cases sink.mode with
  | discard => exact ended (.refl hw)
  | forward bridge =>
    simp only
    cases hf : (w.bridges bridge).resolve consoleKey with
    | some f => exact (hi f _ w (hw.bridges bridge consoleKey f hf) hw).map _
    | none => exact ended (.emit_audit hlogger hw rfl)

end Invoker.Follows

/-- As long as all reports go to the logger, nothing that a call can do leaves the logger behind. -/
theorem World.Follows.invariant {logger : AuditLogger} (hlogger : logger ≠ .silent) (w₀ : World) :
    World.Invariant (w₀.Follows logger) (Behaviour.ReportsTo logger) where
  inTurn _ hvs f hf := (hvs.inTurn _ hf).callable.behaviour
  exactly _ _ _ hb := hb.exactly
  fresh _ hw := hw.trans (.next hw.reports _)
  receive _ call hw := hw.trans (.receive hw.reports call)
  resolved _ bridge key f hw hf := (hw.reports.bridges bridge key f hf).behaviour
  register _ bridge key _ hf hw := hw.trans (.register hw.reports bridge key hf.writeEntry)
  unregister _ bridge key hw := hw.trans (.unregister hw.reports bridge key)
  handled _ transport operation _ hw hf :=
    (hw.reports.transports transport operation _ hf).callable.behaviour
  loseLine _ _ hb hw := by
    rw [hb.write]
    exact hw.trans (.emit_audit hlogger hw.reports rfl)

/-- However deep a call may go, the logger hears what the trace tells. -/
theorem Callable.invoke_follows {logger : AuditLogger} (hlogger : logger ≠ .silent) (depth : Nat) :
    Invoker.Follows logger (Callable.invoke depth) :=
  fun _ _ w hf hw _ _ hcall =>
    (World.Follows.invariant hlogger w).invoke hf.behaviour (.refl hw) hcall

/-! ## Installations and contexts -/

theorem Installation.follows_announce {logger : AuditLogger} (hlogger : logger ≠ .silent)
    (i : Installation) {w : World} (hw : w.ReportsTo logger) :
    w.Follows logger (i.announce logger w) := by
  unfold Installation.announce
  induction i.notices generalizing w with
  | nil => exact .refl hw
  | cons n rest ih =>
    have hnotice : w.Follows logger (n.announce logger w) := by
      cases n with
      | installed name => exact .emit_audit hlogger hw rfl
      | present name => exact .emit hlogger hw rfl rfl
      | collided name => exact .emit_audit hlogger hw rfl
    exact hnotice.trans (ih hnotice.reports)

theorem Console.follows_create {logger : AuditLogger} (hlogger : logger ≠ .silent) (sink : Sink)
    {w : World} (hw : w.ReportsTo logger) : w.Follows logger (Console.create sink w).2 := by
  have hemit : w.Follows logger (w.emit (.consoleCreated sink.mode.name)) :=
    .emit hlogger hw rfl rfl
  rw [Console.create_eq]
  exact hemit.trans (.next hemit.reports _)

theorem Network.follows_ofTransport {logger : AuditLogger} (transport : Identity) {w : World}
    (hw : w.ReportsTo logger) : w.Follows logger (Network.ofTransport transport w).2 := by
  rw [Network.ofTransport_eq]
  exact .next hw _

namespace Context

variable {logger : AuditLogger} {w w' : World} {g : Namespace} {c : Context}

/-- All that the context reports goes to the logger. -/
structure ReportsTo (logger : AuditLogger) (c : Context) : Prop where
  logger_eq : c.logger = logger
  global : c.global.ReportsTo logger

/-- The construction of a context ended in a world where the logger has heard what the trace tells,
and a context that it made reports to the logger. -/
structure Reported (logger : AuditLogger) (w : World) (r : Except ContextError Context × World) :
    Prop where
  follows : w.Follows logger r.2
  context : ∀ c, r.1 = .ok c → c.ReportsTo logger

theorem Reported.after {r : Except ContextError Context × World} (h : w.Follows logger w')
    (hr : Reported logger w' r) : Reported logger w r :=
  ⟨h.trans hr.follows, hr.context⟩

theorem reported_install (hlogger : logger ≠ .silent) (id : String) (hg : g.ReportsTo logger)
    {capabilities : CapabilitySet} (hc : ∀ b ∈ capabilities.bindings, b.2.ReportsTo logger)
    (hw : w.ReportsTo logger) :
    Reported logger w (install id g capabilities logger w) := by
  have hannounced :=
    Installation.follows_announce hlogger (Installation.run g capabilities.bindings) hw
  by_cases hi : Installation.Installable g capabilities.bindings
  · rw [install_of_installable hi]
    refine ⟨hannounced.trans (.emit_audit hlogger hannounced.reports rfl), ?_⟩
    rintro _ ⟨⟩
    exact ⟨rfl, hg.fixAll hc⟩
  · obtain ⟨e, he⟩ := Installation.run_of_not_installable hi
    rw [install_of_refused he]
    refine ⟨hannounced, ?_⟩
    rintro _ ⟨⟩

theorem reported_create (hlogger : logger ≠ .silent) (id : String) (hg : g.ReportsTo logger)
    (console : ConsoleMode) (network : Bool) (bridge transport : Option Identity)
    (hw : w.ReportsTo logger) :
    Reported logger w
      (create id g ⟨console, network, true⟩ ⟨bridge, transport, some logger⟩ w) := by
  cases hmode : sinkMode? ⟨console, network, true⟩ ⟨bridge, transport, some logger⟩ with
  | none =>
    rw [create_of_no_bridge hmode]
    refine ⟨.refl hw, ?_⟩
    rintro _ ⟨⟩
  | some mode =>
    have hconsole := Console.follows_create hlogger ⟨mode, logger⟩ hw
    have hsurface := Console.reportsTo_create ⟨mode, logger⟩ w
    have hloggerFor :
        loggerFor ⟨console, network, true⟩ ⟨bridge, transport, some logger⟩ = logger := rfl
    cases network with
    | false =>
      simp only [create, hmode, hloggerFor]
      refine (reported_install hlogger id hg ?_ hconsole.reports).after hconsole
      exact List.forall_mem_cons.mpr ⟨hsurface, by simp⟩
    | true =>
      cases transport with
      | none =>
        rw [create_of_no_transport hmode rfl rfl]
        refine ⟨hconsole, ?_⟩
        rintro _ ⟨⟩
      | some transport =>
        simp only [create, hmode, hloggerFor]
        have hnetwork := Network.follows_ofTransport transport hconsole.reports
        obtain ⟨hnet, htls⟩ := Network.reportsTo_ofTransport logger transport
          (Console.create ⟨mode, logger⟩ w).2
        refine (reported_install hlogger id hg ?_ hnetwork.reports).after (hconsole.trans hnetwork)
        simpa [CapabilitySet.bindings] using ⟨hsurface, hnet, htls⟩

end Context

end CapabilityGateway
