import CapabilityGateway.Proofs.Audit.Agreement
import CapabilityGateway.Proofs.Sandbox.Lifecycle

/-!
# Sessions that report to one logger

A session in which installations, consoles and contexts all report to one logger: hosts make
contexts, use and drop them, install capabilities elsewhere, and the guests of the contexts call
what they find in their namespaces. What the logger hears in such a session can be read off the
trace.

The consoles that the host brings along have to report to the logger. Those of the contexts do so of
themselves, since a context hands its own logger on to its console.

* `Session.Act`: what happens in a session.
* `Session.follows_of_perform`, `Session.follows_of_act`: one step keeps the logger up with the
  trace.
* `Session.log_agrees_with_trace`: so does every session.
-/

namespace CapabilityGateway

/-- Every callable that a change registers reports to the logger. -/
def Bridge.Change.ReportsTo (logger : AuditLogger) : Bridge.Change → Prop
  | .register _ f => f.ReportsTo logger
  | .registerNew _ b => b.ReportsTo logger
  | .unregister _ => True

theorem World.Follows.change {logger : AuditLogger} {w : World} (h : w.ReportsTo logger)
    (bridge : Identity) {c : Bridge.Change} (hc : c.ReportsTo logger) :
    w.Follows logger (w.change bridge c).2 := by
  cases c with
  | register key f => exact .register h bridge key hc
  | registerNew key b =>
    have hfresh : w.Follows logger w.fresh.2 := .next h _
    refine hfresh.trans (.register hfresh.reports bridge key fun s hs => hc s ?_)
    rwa [Callable.sinks] at hs
  | unregister key => exact .unregister h bridge key

namespace Session

variable {logger : AuditLogger} {depth : Nat} {s s' s'' : Session} {reply : Reply}

/-! ## What happens in a session -/

/-- A step of the host, or what happens beside its steps. -/
inductive Act where
  | host (step : Step)
  /-- Something is installed into a namespace that belongs to no context. -/
  | install (g : Namespace) (bindings : List (String × Value))
  /-- The guest of a context calls the value of a name, or a member of it. -/
  | visit (id name : String) (member : Option String) (arguments : List Value)

/-- What the guest calls. A member that there is not is undefined, which cannot be called. -/
def called (v : Value) : Option String → Value
  | some key => (v.member? key).getD .undefined
  | none => v

def Act.perform (logger : AuditLogger) (depth : Nat) (s : Session) :
    Act → Option (Reply × Session)
  | .host step => step.perform logger depth s
  | .install g bindings =>
    some (.used, ⟨(Installation.run g bindings).announce logger s.world, s.live⟩)
  | .visit id name member arguments =>
    match s.live id with
    | some context =>
      match context.global.resolve name with
      | .ok v => s.computed ((Callable.invoke depth).call (called v member) arguments s.world)
      | .error _ => some (.used, s)
    | none => some (.absent, s)

/-- The session after some acts. -/
def play (logger : AuditLogger) (depth : Nat) : List Act → Session → Option Session
  | [], s => some s
  | act :: rest, s =>
    match act.perform logger depth s with
    | some (_, s) => play logger depth rest s
    | none => none

/-! ## Reporting to one logger -/

/-- Everything that the host brings along for the step reports to the logger. -/
def Step.ReportsTo (logger : AuditLogger) : Step → Prop
  | .create _ g _ _ _ _ => g.ReportsTo logger
  | .assemble _ g capabilities =>
    g.ReportsTo logger ∧ ∀ b ∈ capabilities.bindings, b.2.ReportsTo logger
  | .equip sink _ => sink.logger = logger
  | .change _ c => c.AllValues (Value.ReportsTo logger)
  | .call f _ => f.ReportsTo logger
  | .log console _ => console.sink.logger = logger
  | .rebind _ c => c.ReportsTo logger
  | .drop _ => True

def Act.ReportsTo (logger : AuditLogger) : Act → Prop
  | .host step => step.ReportsTo logger
  | .install .. => True
  | .visit .. => True

/-- The host and all of its contexts report to the logger. -/
structure ReportsTo (logger : AuditLogger) (s : Session) : Prop where
  world : s.world.ReportsTo logger
  contexts : ∀ id c, s.live id = some c → c.ReportsTo logger

/-- The logger heard what the trace tells, and the session still reports to the logger. -/
structure Follows (logger : AuditLogger) (s s' : Session) : Prop where
  reports : s'.ReportsTo logger
  echoes : s.world.Echoes s'.world logger

namespace Follows

theorem refl (h : s.ReportsTo logger) : s.Follows logger s := ⟨h, .of_eq rfl rfl⟩

theorem trans (h₁ : s.Follows logger s') (h₂ : s'.Follows logger s'') : s.Follows logger s'' :=
  ⟨h₂.reports, h₁.echoes.trans h₂.echoes⟩

/-- The contexts are as they were. -/
theorem of_world (h : s.ReportsTo logger) {w : World} (hw : s.world.Follows logger w) :
    s.Follows logger ⟨w, s.live⟩ :=
  ⟨⟨hw.reports, h.contexts⟩, hw.echoes⟩

/-- One context is new, or changed, or gone. -/
theorem of_update (h : s.ReportsTo logger) {w : World} (hw : s.world.Follows logger w)
    (id : String) {context : Option Context} (hc : ∀ c, context = some c → c.ReportsTo logger) :
    s.Follows logger ⟨w, Function.update s.live id context⟩ := by
  refine ⟨⟨hw.reports, fun i c hi => ?_⟩, hw.echoes⟩
  by_cases hid : i = id
  · subst hid
    exact hc c (by simpa using hi)
  · exact h.contexts i c (by simpa [hid] using hi)

end Follows

theorem follows_constructed (hs : s.ReportsTo logger) {id : String}
    {r : Except ContextError Context × World} (hr : Context.Reported logger s.world r)
    (h : s.constructed id r = (reply, s')) : s.Follows logger s' := by
  obtain ⟨result, w⟩ := r
  cases result with
  | ok c =>
    cases h
    refine .of_update hs hr.follows id ?_
    rintro _ ⟨⟩
    exact hr.context c rfl
  | error e =>
    cases h
    exact .of_world hs hr.follows

theorem follows_computed (hs : s.ReportsTo logger) {α : Type} {o : Outcome α}
    (ho : Outcome.Follows logger s.world o) (h : s.computed o = some (reply, s')) :
    s.Follows logger s' := by
  cases o with
  | none => cases h
  | some p =>
    cases h
    exact .of_world hs (ho p.1 p.2 rfl)

theorem follows_change (hlogger : logger ≠ .silent) {c : Namespace.Change}
    (hc : c.AllValues (Value.ReportsTo logger)) {g : Namespace} (hg : g.ReportsTo logger)
    {w : World} (hw : w.ReportsTo logger) :
    w.Follows logger (c.perform logger (g, w)).2 ∧
      (c.perform logger (g, w)).1.ReportsTo logger := by
  have hvalues : (c.apply g).ReportsTo logger := hg.apply hc
  cases c with
  | edit e => exact ⟨.refl hw, hvalues⟩
  | install bindings => exact ⟨Installation.follows_announce hlogger _ hw, hvalues⟩

theorem follows_of_perform (hlogger : logger ≠ .silent) (hs : s.ReportsTo logger) {step : Step}
    (hstep : step.ReportsTo logger) (h : step.perform logger depth s = some (reply, s')) :
    s.Follows logger s' := by
  have hinvoke := Callable.invoke_follows hlogger depth
  cases step with
  | create id g console network bridge transport =>
    exact follows_constructed hs
      (Context.reported_create hlogger id hstep console network bridge transport hs.world)
      (Option.some.inj h)
  | assemble id g capabilities =>
    exact follows_constructed hs
      (Context.reported_install hlogger id hstep.1 hstep.2 hs.world) (Option.some.inj h)
  | equip sink transport =>
    cases h
    have hconsole := Console.follows_create hlogger sink hs.world
    exact .of_world hs (hconsole.trans (Network.follows_ofTransport transport hconsole.reports))
  | change id c =>
    obtain ⟨-, rfl⟩ | ⟨context, hlive, -, rfl⟩ := perform_change_cases h
    · exact .refl hs
    · have hcontext := hs.contexts id context hlive
      obtain ⟨hw, hg⟩ := follows_change hlogger hstep hcontext.global hs.world
      refine .of_update hs hw id ?_
      rintro _ ⟨⟩
      exact ⟨hcontext.logger_eq, hg⟩
  | call f arguments => exact follows_computed hs (hinvoke f arguments s.world hstep hs.world) h
  | log console arguments =>
    exact follows_computed hs (hinvoke.write hlogger hstep arguments hs.world) h
  | rebind bridge c =>
    cases h
    exact .of_world hs (.change hs.world bridge hstep)
  | drop id =>
    obtain ⟨-, rfl⟩ | ⟨context, hlive, -, rfl⟩ := perform_drop_cases h
    · exact .refl hs
    · have hcontext := hs.contexts id context hlive
      refine .of_update hs ?_ id (by rintro _ ⟨⟩)
      rw [Context.drop, hcontext.logger_eq]
      exact .emit_audit hlogger hs.world rfl

/-- What a guest finds in a namespace reports to the logger that the namespace reports to. -/
theorem reportsTo_called {g : Namespace} (hg : g.ReportsTo logger) {name : String} {v : Value}
    (hv : g.resolve name = .ok v) (member : Option String) :
    (called v member).ReportsTo logger := by
  have hvalue : v.ReportsTo logger := by
    cases hp : g.property? name with
    | none => simp [Namespace.resolve, Namespace.get?, hp] at hv
    | some p =>
      rw [Namespace.resolve_of_property? hp] at hv
      cases hv
      exact hg name p hp
  cases member with
  | none => exact hvalue
  | some key =>
    rw [called]
    cases hmember : v.member? key with
    | none => exact .of_sinks_eq_nil rfl
    | some u => exact hvalue.member hmember

/-- A guest calls something only if its context is there and the name is bound. -/
theorem perform_visit_cases {id name : String} {member : Option String} {arguments : List Value}
    (h : (Act.visit id name member arguments).perform logger depth s = some (reply, s')) :
    s' = s ∨ ∃ context v, s.live id = some context ∧ context.global.resolve name = .ok v ∧
      s.computed ((Callable.invoke depth).call (called v member) arguments s.world) =
        some (reply, s') := by
  rw [Act.perform] at h
  cases hlive : s.live id with
  | none =>
    rw [hlive] at h
    cases h
    exact .inl rfl
  | some context =>
    cases hv : context.global.resolve name with
    | error e =>
      simp only [hlive, hv] at h
      cases h
      exact .inl rfl
    | ok v =>
      simp only [hlive, hv] at h
      exact .inr ⟨context, v, rfl, hv, h⟩

theorem follows_of_act (hlogger : logger ≠ .silent) (hs : s.ReportsTo logger) {act : Act}
    (hact : act.ReportsTo logger) (h : act.perform logger depth s = some (reply, s')) :
    s.Follows logger s' := by
  cases act with
  | host step => exact follows_of_perform hlogger hs hact h
  | install g bindings =>
    cases h
    exact .of_world hs (Installation.follows_announce hlogger _ hs.world)
  | visit id name member arguments =>
    obtain rfl | ⟨context, v, hlive, hv, hcall⟩ := perform_visit_cases h
    · exact .refl hs
    · have hcalled := reportsTo_called (hs.contexts id context hlive).global hv member
      exact follows_computed hs
        ((Callable.invoke_follows hlogger depth).call hcalled arguments hs.world) hcall

theorem follows_of_play (hlogger : logger ≠ .silent) (hs : s.ReportsTo logger) {acts : List Act}
    (hacts : ∀ act ∈ acts, act.ReportsTo logger) (h : play logger depth acts s = some s') :
    s.Follows logger s' := by
  induction acts generalizing s with
  | nil =>
    cases h
    exact .refl hs
  | cons act rest ih =>
    obtain ⟨hact, hrest⟩ := List.forall_mem_cons.mp hacts
    rw [play] at h
    cases hperform : act.perform logger depth s with
    | none =>
      rw [hperform] at h
      cases h
    | some p =>
      rw [hperform] at h
      have hfirst := follows_of_act hlogger hs hact hperform
      exact hfirst.trans (ih hfirst.reports hrest h)

/-- The audit log and the trace agree. Whatever happens in a session that reports to one logger, the
logger hears of exactly those events of the trace that the audit is to hear of, in the order of the
trace and with the same particulars. The messages of the trace tell which these are. -/
theorem log_agrees_with_trace (hlogger : logger ≠ .silent) (hs : s.ReportsTo logger)
    {acts : List Act} (hacts : ∀ act ∈ acts, act.ReportsTo logger)
    (hrun : play logger depth acts s = some s') :
    ∃ emitted, s'.world.trace = s.world.trace ++ emitted ∧
      s'.world.heard logger = s.world.heard logger ++ emitted.filterMap TraceEvent.told? ∧
      ∀ event ∈ emitted,
        event.told?.isSome = true ↔ event.message ∈ TraceEvent.tellingMessages := by
  obtain ⟨emitted, htrace, hheard⟩ := (follows_of_play hlogger hs hacts hrun).echoes
  exact ⟨emitted, htrace, hheard, fun event _ => event.isSome_told?_iff⟩

/-- The guest of one context loses two lines, on either side of the construction of a second
context, which finds its console taken. Then two things are installed elsewhere, one of which is
there already, and the first context ends. -/
theorem log_agrees_with_trace_interleaved :
    let w₀ := World.initial ⟨0, 0⟩ fun _ => HostCall.plainAnswer
    let taken := Namespace.empty.write "console" (.fixedHidden .null)
    let acts : List Act := [
      .host (.create "a" .empty .forward false (some 7) none),
      .visit "a" "console" (some "log") [.string "lost"],
      .host (.create "b" taken .discard false none none),
      .visit "a" "console" (some "warn") [],
      .install taken [("console", .null), ("net", .null)],
      .host (.drop "a")]
    ∃ s', play (start w₀).1 2 acts (start w₀).2 = some s' ∧
      s'.world.heard (start w₀).1 =
        [.capabilityInstalled "console", .contextCreated "a" ["console"],
          .hostFunctionMissing consoleKey, .capabilityCollision "console",
          .hostFunctionMissing consoleKey, .capabilityInstalled "net", .contextDestroyed "a"] ∧
      ∃ emitted, s'.world.trace = (start w₀).2.world.trace ++ emitted ∧
        s'.world.heard (start w₀).1 =
          (start w₀).2.world.heard (start w₀).1 ++ emitted.filterMap TraceEvent.told? ∧
        ∀ event ∈ emitted,
          event.told?.isSome = true ↔ event.message ∈ TraceEvent.tellingMessages := by
  intro w₀ taken acts
  have hheard : (play (start w₀).1 2 acts (start w₀).2).map
      (fun s => s.world.heard (start w₀).1) = some
        [.capabilityInstalled "console", .contextCreated "a" ["console"],
          .hostFunctionMissing consoleKey, .capabilityCollision "console",
          .hostFunctionMissing consoleKey, .capabilityInstalled "net", .contextDestroyed "a"] := by
    decide +kernel
  obtain ⟨s', hrun, hlog⟩ := Option.map_eq_some_iff.mp hheard
  have hstart : ReportsTo (start w₀).1 (start w₀).2 := by
    refine ⟨⟨?_, ?_⟩, ?_⟩
    · intro bridge key f hf
      cases hf
    · intro transport operation v hv
      cases hv
    · intro id c hc
      cases hc
  have hnull : Value.null.ReportsTo (start w₀).1 := .of_sinks_eq_nil rfl
  have htaken : taken.ReportsTo (start w₀).1 := (Namespace.allValues_empty _).write "console" hnull
  have hacts : ∀ act ∈ acts, act.ReportsTo (start w₀).1 := by
    simpa [acts, Act.ReportsTo, Step.ReportsTo] using ⟨Namespace.allValues_empty _, htaken⟩
  exact ⟨s', hrun, hlog,
    log_agrees_with_trace w₀.newLog_ne_silent hstart hacts hrun⟩

end Session

end CapabilityGateway
