import CapabilityGateway.Proofs.Audit.Calls
import CapabilityGateway.Proofs.Installation.Trail
import CapabilityGateway.Proofs.Sandbox.Assembly

/-!
# Hosts with many contexts

A host makes contexts, uses those that it has and drops them, in any order. All of them have audit
and report to one logger. `Session.run` carries such steps out one after another.

What a step does to the contexts of the host and what the logger hears of it are said once, by
`Session.Effect`. A context comes to be only as the last thing that its construction does, and so
does the event that tells of it: whatever fails before leaves neither.

* `World.Tells`: what a logger heard of contexts between two worlds.
* `Session.effect_of_perform`: every step has one of five effects.
-/

namespace CapabilityGateway

/-! ## Events about contexts -/

namespace AuditEvent

/-- The context that an event is about. -/
def context? : AuditEvent → Option String
  | .contextCreated id _ => some id
  | .contextDestroyed id => some id
  | _ => none

end AuditEvent

namespace World

variable {w w' w'' : World} {logger : AuditLogger}

/-- The events that are about contexts. -/
def lifecycle (events : List AuditEvent) : List AuditEvent :=
  events.filter (·.context?.isSome)

/-- What the logger heard of contexts between the two worlds. -/
def Tells (w w' : World) (logger : AuditLogger) (events : List AuditEvent) : Prop :=
  lifecycle (w'.heard logger) = lifecycle (w.heard logger) ++ events

theorem Tells.of_recorded {events : List AuditEvent} (hlogger : logger ≠ .silent)
    (h : w.Recorded w' logger events) : w.Tells w' logger (lifecycle events) := by
  have hheard := h logger hlogger
  rw [if_pos rfl] at hheard
  rw [Tells, hheard]
  exact List.filter_append _ _

theorem Tells.of_losesLines (h : w.LosesLines w') (logger : AuditLogger) :
    w.Tells w' logger [] := by
  obtain ⟨n, hn⟩ := h logger
  have hlost : lifecycle (List.replicate n (.hostFunctionMissing consoleKey)) = [] := by
    refine List.filter_eq_nil_iff.mpr fun event hevent => ?_
    rw [List.eq_of_mem_replicate hevent]
    exact Bool.false_ne_true
  have hsplit : lifecycle (w.heard logger ++ List.replicate n (.hostFunctionMissing consoleKey)) =
      lifecycle (w.heard logger) ++ [] := by
    rw [← hlost]
    exact List.filter_append _ _
  rw [Tells, hn, hsplit]

end World

namespace Installation

/-- Installations are not about contexts. -/
theorem lifecycle_notices (notices : List Notice) :
    World.lifecycle (notices.filterMap Notice.event?) = [] := by
  refine List.filter_eq_nil_iff.mpr fun event hevent => ?_
  obtain ⟨n, -, hn⟩ := List.mem_filterMap.mp hevent
  cases n with
  | present name => cases hn
  | _ => cases hn; exact Bool.false_ne_true

theorem tells_announce {logger : AuditLogger} (hlogger : logger ≠ .silent) (i : Installation)
    (w : World) : w.Tells (i.announce logger w) logger [] := by
  have htold := World.Tells.of_recorded hlogger (recorded_announce i logger w)
  rwa [lifecycle_notices] at htold

end Installation

/-! ## Construction -/

namespace Context

/-- How a construction with an audit logger ends: with a context, of which the logger has heard with
its capabilities, or without one, and then the logger has heard of no context. -/
inductive Constructed (id : String) (logger : AuditLogger) (w : World) :
    Except ContextError Context × World → Prop where
  | made {c : Context} {w' : World} (hid : c.id = id) (hlogger : c.logger = logger)
      (told : w.Tells w' logger [.contextCreated id c.capabilities]) :
      Constructed id logger w (.ok c, w')
  | refused {e : ContextError} {w' : World} (told : w.Tells w' logger []) :
      Constructed id logger w (.error e, w')

variable {id : String} {g : Namespace} {capabilities : CapabilitySet} {logger : AuditLogger}
  {w w' : World}

theorem Constructed.after (hlogger : logger ≠ .silent) (h : w.Recorded w' logger [])
    {r : Except ContextError Context × World} (hr : Constructed id logger w' r) :
    Constructed id logger w r := by
  have htold : World.lifecycle (w'.heard logger) = World.lifecycle (w.heard logger) := by
    rw [h logger hlogger, if_pos rfl, List.append_nil]
  cases hr with
  | made hid hlogger told => exact .made hid hlogger (told.trans (by rw [htold]))
  | refused told => exact .refused (told.trans (by rw [htold]))

theorem constructed_install (hlogger : logger ≠ .silent) (id : String) (g : Namespace)
    (capabilities : CapabilitySet) (w : World) :
    Constructed id logger w (install id g capabilities logger w) := by
  have hannounced :=
    Installation.tells_announce hlogger (Installation.run g capabilities.bindings) w
  by_cases h : Installation.Installable g capabilities.bindings
  · rw [install_of_installable h]
    refine .made rfl rfl ((World.Tells.of_recorded hlogger
      (World.recorded_emit_audit _ rfl logger (.contextCreated id capabilities.names))).trans ?_)
    rw [hannounced, List.append_nil]
    rfl
  · obtain ⟨e, he⟩ := Installation.run_of_not_installable h
    rw [install_of_refused he]
    exact .refused hannounced

theorem constructed_create (hlogger : logger ≠ .silent) (id : String) (g : Namespace)
    (console : ConsoleMode) (network : Bool) (bridge transport : Option Identity) (w : World) :
    Constructed id logger w
      (create id g ⟨console, network, true⟩ ⟨bridge, transport, some logger⟩ w) := by
  cases hmode : sinkMode? ⟨console, network, true⟩ ⟨bridge, transport, some logger⟩ with
  | none =>
    rw [create_of_no_bridge hmode]
    exact .refused (.of_losesLines (.refl w) logger)
  | some mode =>
    by_cases htransport : network = true ∧ transport = none
    · rw [create_of_no_transport hmode htransport.1 htransport.2]
      exact .refused (.of_recorded hlogger (recorded_create_console _ w logger))
    · obtain ⟨capabilities, w', hwired, hcreate⟩ : ∃ capabilities w',
          Wired ⟨console, network, true⟩ w capabilities w' ∧
            create id g ⟨console, network, true⟩ ⟨bridge, transport, some logger⟩ w =
              install id g capabilities logger w' :=
        create_eq_install hmode fun hn ht => htransport ⟨hn, ht⟩
      rw [hcreate]
      exact (constructed_install hlogger id g capabilities w').after hlogger
        (hwired.unrecorded logger)

theorem tells_drop (hlogger : logger ≠ .silent) {c : Context} (hc : c.logger = logger) (w : World) :
    w.Tells (c.drop w) logger [.contextDestroyed c.id] := by
  subst hc
  exact World.Tells.of_recorded hlogger
    (w.recorded_emit_audit rfl c.logger (.contextDestroyed c.id))

end Context

/-! ## Sessions -/

/-- A host with the contexts that it has. -/
structure Session where
  world : World
  live : String → Option Context

namespace Session

inductive Step where
  /-- Makes a context in a namespace, with audit. -/
  | create (id : String) (g : Namespace) (console : ConsoleMode) (network : Bool)
      (bridge transport : Option Identity)
  /-- Makes a context from capabilities that the host has. -/
  | assemble (id : String) (g : Namespace) (capabilities : CapabilitySet)
  /-- Makes capabilities. -/
  | equip (sink : Sink) (transport : Identity)
  /-- The namespace of a context is edited, or has something installed into it. -/
  | change (id : String) (c : Namespace.Change)
  | call (f : Callable) (arguments : List Value)
  /-- The host itself writes a line to a console. -/
  | log (console : Console) (arguments : List Value)
  | rebind (bridge : Identity) (c : Bridge.Change)
  | drop (id : String)

/-- The identifier of the context that a step shall make. -/
def Step.new? : Step → Option String
  | .create id .. => some id
  | .assemble id .. => some id
  | _ => none

inductive Reply where
  | made (c : Context)
  | refused (id : String) (e : ContextError)
  | used
  | dropped (c : Context)
  /-- There is no such context. -/
  | absent

/-- The identifier of the context that a reply is about. -/
def Reply.id? : Reply → Option String
  | .made c => some c.id
  | .refused id _ => some id
  | .dropped c => some c.id
  | _ => none

/-- The session after the construction of a context. -/
def constructed (s : Session) (id : String) : Except ContextError Context × World → Reply × Session
  | (.ok c, w) => (.made c, ⟨w, Function.update s.live id (some c)⟩)
  | (.error e, w) => (.refused id e, ⟨w, s.live⟩)

/-- The session after a computation of the host. There is none if the computation does not end. -/
def computed {α : Type} (s : Session) : Outcome α → Option (Reply × Session)
  | some (_, w) => some (.used, ⟨w, s.live⟩)
  | none => none

/-- One step of a host whose contexts share a logger. Calls have at most `depth` calls open at once,
and there is no outcome when that does not suffice. -/
def Step.perform (logger : AuditLogger) (depth : Nat) (s : Session) :
    Step → Option (Reply × Session)
  | .create id g console network bridge transport =>
    some (s.constructed id
      (Context.create id g ⟨console, network, true⟩ ⟨bridge, transport, some logger⟩ s.world))
  | .assemble id g capabilities =>
    some (s.constructed id (Context.install id g capabilities logger s.world))
  | .equip sink transport =>
    let (_, w) := Console.create sink s.world
    let (_, w) := Network.ofTransport transport w
    some (.used, ⟨w, s.live⟩)
  | .change id c =>
    match s.live id with
    | some context =>
      let (g, w) := c.perform logger (context.global, s.world)
      some (.used, ⟨w, Function.update s.live id (some { context with global := g })⟩)
    | none => some (.absent, s)
  | .call f arguments => s.computed (Callable.invoke depth f arguments s.world)
  | .log console arguments => s.computed (console.log depth arguments s.world)
  | .rebind bridge c => some (.used, ⟨(s.world.change bridge c).2, s.live⟩)
  | .drop id =>
    match s.live id with
    | some context =>
      some (.dropped context, ⟨context.drop s.world, Function.update s.live id none⟩)
    | none => some (.absent, s)

/-- Steps one after another, with their replies. -/
def run (logger : AuditLogger) (depth : Nat) :
    List Step → Session → Option (List Reply × Session)
  | [], s => some ([], s)
  | step :: rest, s =>
    match step.perform logger depth s with
    | some (reply, s) =>
      match run logger depth rest s with
      | some (replies, s) => some (reply :: replies, s)
      | none => none
    | none => none

/-! ## What a step does -/

/-- What a step that shall make the context `new?` does to the contexts of the host, and what the
logger hears of it. -/
inductive Effect (logger : AuditLogger) (s : Session) : Option String → Reply → Session → Prop where
  | made {id : String} {c : Context} {w : World} (hid : c.id = id) (hlogger : c.logger = logger)
      (told : s.world.Tells w logger [.contextCreated id c.capabilities]) :
      Effect logger s (some id) (.made c) ⟨w, Function.update s.live id (some c)⟩
  | refused {id : String} {e : ContextError} {w : World} (told : s.world.Tells w logger []) :
      Effect logger s (some id) (.refused id e) ⟨w, s.live⟩
  | changed {id : String} {c : Context} (g : Namespace) {w : World} (hc : s.live id = some c)
      (told : s.world.Tells w logger []) :
      Effect logger s none .used ⟨w, Function.update s.live id (some { c with global := g })⟩
  | dropped {id : String} {c : Context} {w : World} (hc : s.live id = some c)
      (told : c.logger = logger → s.world.Tells w logger [.contextDestroyed c.id]) :
      Effect logger s none (.dropped c) ⟨w, Function.update s.live id none⟩
  /-- Nothing happens to the contexts. -/
  | passed {reply : Reply} {w : World} (hreply : reply.id? = none)
      (told : s.world.Tells w logger []) : Effect logger s none reply ⟨w, s.live⟩

variable {logger : AuditLogger} {depth : Nat} {s s' : Session} {reply : Reply}

theorem run_cons {step : Step} {rest : List Step} {replies : List Reply}
    (h : run logger depth (step :: rest) s = some (replies, s')) :
    ∃ reply s₁ later, step.perform logger depth s = some (reply, s₁) ∧
      run logger depth rest s₁ = some (later, s') ∧ replies = reply :: later := by
  rw [run] at h
  cases hstep : step.perform logger depth s with
  | none =>
    rw [hstep] at h
    cases h
  | some p =>
    rw [hstep] at h
    simp only at h
    cases hrest : run logger depth rest p.2 with
    | none =>
      rw [hrest] at h
      cases h
    | some q =>
      rw [hrest] at h
      cases h
      exact ⟨p.1, p.2, q.1, rfl, hrest, rfl⟩

/-- A change of a context that the host has not got is nothing. -/
theorem perform_change_cases {id : String} {c : Namespace.Change}
    (h : (Step.change id c).perform logger depth s = some (reply, s')) :
    (reply = .absent ∧ s' = s) ∨
      ∃ context, s.live id = some context ∧ reply = .used ∧
        s' = ⟨(c.perform logger (context.global, s.world)).2, Function.update s.live id
          (some { context with global := (c.perform logger (context.global, s.world)).1 })⟩ := by
  rw [Step.perform] at h
  cases hlive : s.live id with
  | none =>
    rw [hlive] at h
    cases h
    exact .inl ⟨rfl, rfl⟩
  | some context =>
    rw [hlive] at h
    cases h
    exact .inr ⟨context, rfl, rfl, rfl⟩

/-- Dropping a context that the host has not got is nothing. -/
theorem perform_drop_cases {id : String}
    (h : (Step.drop id).perform logger depth s = some (reply, s')) :
    (reply = .absent ∧ s' = s) ∨
      ∃ context, s.live id = some context ∧ reply = .dropped context ∧
        s' = ⟨context.drop s.world, Function.update s.live id none⟩ := by
  rw [Step.perform] at h
  cases hlive : s.live id with
  | none =>
    rw [hlive] at h
    cases h
    exact .inl ⟨rfl, rfl⟩
  | some context =>
    rw [hlive] at h
    cases h
    exact .inr ⟨context, rfl, rfl, rfl⟩

theorem effect_constructed {id : String} {r : Except ContextError Context × World}
    (hr : Context.Constructed id logger s.world r) (h : s.constructed id r = (reply, s')) :
    Effect logger s (some id) reply s' := by
  cases hr with
  | made hid hlogger told =>
    cases h
    exact .made hid hlogger told
  | refused told =>
    cases h
    exact .refused told

theorem effect_computed {α : Type} {o : Outcome α} (ho : Outcome.LosesLines s.world o)
    (h : s.computed o = some (reply, s')) : Effect logger s none reply s' := by
  cases o with
  | none => cases h
  | some p =>
    cases h
    exact .passed rfl (.of_losesLines (ho p.1 p.2 rfl) logger)

theorem tells_change (hlogger : logger ≠ .silent) (c : Namespace.Change) (g : Namespace)
    (w : World) : w.Tells (c.perform logger (g, w)).2 logger [] := by
  cases c with
  | edit e => exact .of_losesLines (.refl w) logger
  | install bindings => exact Installation.tells_announce hlogger _ w

theorem tells_equip (hlogger : logger ≠ .silent) (sink : Sink) (transport : Identity) (w : World) :
    w.Tells (Network.ofTransport transport (Console.create sink w).2).2 logger [] := by
  have hconsole := Context.recorded_create_console sink w logger
  rw [Network.ofTransport_eq]
  exact .of_recorded hlogger (hconsole.trans (World.recorded_next _ _ logger))

theorem effect_of_perform (hlogger : logger ≠ .silent) {step : Step}
    (h : step.perform logger depth s = some (reply, s')) : Effect logger s step.new? reply s' := by
  cases step with
  | create id g console network bridge transport =>
    exact effect_constructed
      (Context.constructed_create hlogger id g console network bridge transport s.world)
      (Option.some.inj h)
  | assemble id g capabilities =>
    exact effect_constructed (Context.constructed_install hlogger id g capabilities s.world)
      (Option.some.inj h)
  | equip sink transport =>
    cases h
    exact .passed rfl (tells_equip hlogger sink transport s.world)
  | change id c =>
    obtain ⟨rfl, rfl⟩ | ⟨context, hlive, rfl, rfl⟩ := perform_change_cases h
    · exact .passed rfl (.of_losesLines (.refl _) logger)
    · exact .changed _ hlive (tells_change hlogger c context.global s.world)
  | call f arguments =>
    exact effect_computed (Callable.invoke_losesLines depth f arguments s.world) h
  | log console arguments =>
    exact effect_computed
      ((Callable.invoke_losesLines depth).write console.sink arguments s.world) h
  | rebind bridge c =>
    cases h
    exact .passed rfl (.of_losesLines (.change s.world bridge c) logger)
  | drop id =>
    obtain ⟨rfl, rfl⟩ | ⟨context, hlive, rfl, rfl⟩ := perform_drop_cases h
    · exact .passed rfl (.of_losesLines (.refl _) logger)
    · exact .dropped hlive fun hc => Context.tells_drop hlogger hc s.world

end Session

end CapabilityGateway
