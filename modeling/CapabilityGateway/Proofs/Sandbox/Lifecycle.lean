import CapabilityGateway.Proofs.Sandbox.Session

/-!
# The lives of contexts in the audit log

The log of a session says which contexts there have been, which of them are gone and which are
alive. A context is recorded when its construction has succeeded and when it is dropped; one whose
construction fails is never recorded.

Each identifier has a fate: no context was made for it, its construction failed, its context is
alive, or it is gone. The fate says what the host was replied about the identifier, and the log can
be read off these replies. Both is preserved by every step, and it is all that the proof needs.

* `Session.Fate`: the four fates.
* `Session.Consistent.after_effect`: one step preserves the fates and what the log says of them.
* `Session.lifecycle_audit`: the log of any session.
-/

namespace CapabilityGateway

/-- The event says that the context was created. -/
def AuditEvent.creates (id : String) : AuditEvent → Bool
  | .contextCreated context _ => context = id
  | _ => false

namespace Session

/-- What the log says of a reply. -/
def Reply.lifecycle : Reply → List AuditEvent
  | .made c => [.contextCreated c.id c.capabilities]
  | .dropped c => [.contextDestroyed c.id]
  | _ => []

/-- The replies about one context. -/
def history (id : String) (replies : List Reply) : List Reply :=
  replies.filter (·.id? = some id)

/-- What can have become of a context, by the replies about it and by what the host has of it. -/
inductive Fate (logger : AuditLogger) (id : String) : List Reply → Option Context → Prop where
  | unmade : Fate logger id [] none
  | refused (e : ContextError) : Fate logger id [.refused id e] none
  /-- The namespace may have changed, the rest is as it was made. -/
  | living {c : Context} (g : Namespace) (hid : c.id = id) (hlogger : c.logger = logger) :
      Fate logger id [.made c] (some { c with global := g })
  | gone {c : Context} (g : Namespace) (hid : c.id = id) :
      Fate logger id [.made c, .dropped { c with global := g }] none

/-- The session and its log are what the replies so far say. -/
structure Consistent (logger : AuditLogger) (past : List Reply) (s : Session) : Prop where
  fate : ∀ id, Fate logger id (history id past) (s.live id)
  told : World.lifecycle (s.world.heard logger) = past.flatMap Reply.lifecycle

/-- What a log says of one context agrees with the replies about it and with what the host has. -/
structure Accounts (id : String) (log : List AuditEvent) (replies : List Reply)
    (live : Option Context) : Prop where
  created_once : log.countP (·.creates id) ≤ 1
  destroyed_once : log.count (.contextDestroyed id) ≤ 1
  ordered : ∀ before after, log = before ++ .contextDestroyed id :: after →
    ∃ names, .contextCreated id names ∈ before
  created : ∀ names, .contextCreated id names ∈ log ↔
    ∃ c, .made c ∈ replies ∧ c.id = id ∧ c.capabilities = names
  destroyed : .contextDestroyed id ∈ log ↔ ∃ c, .dropped c ∈ replies ∧ c.id = id
  refused : ∀ e, .refused id e ∈ replies → ∀ event ∈ log, event.context? ≠ some id
  living : ∀ names, (∃ c, live = some c ∧ c.id = id ∧ c.capabilities = names) ↔
    .contextCreated id names ∈ log ∧ .contextDestroyed id ∉ log

variable {logger : AuditLogger} {depth : Nat} {id : String} {past : List Reply} {s s' : Session}
  {reply : Reply} {new? : Option String}

/-! ## Fates -/

theorem Fate.live_eq_none {live : Option Context} (h : Fate logger id [] live) : live = none := by
  cases h
  rfl

theorem Fate.of_live {replies : List Reply} {c : Context} (h : Fate logger id replies (some c)) :
    ∃ c₀ g, replies = [.made c₀] ∧ c = { c₀ with global := g } ∧ c₀.id = id ∧
      c₀.logger = logger := by
  cases h with
  | living g hid hlogger => exact ⟨_, g, rfl, rfl, hid, hlogger⟩

theorem history_cons_of_eq (h : reply.id? = some id) (rest : List Reply) :
    history id (reply :: rest) = reply :: history id rest :=
  List.filter_cons_of_pos (decide_eq_true h)

theorem history_cons_of_ne (h : reply.id? ≠ some id) (rest : List Reply) :
    history id (reply :: rest) = history id rest :=
  List.filter_cons_of_neg (by simpa using h)

theorem history_append (id : String) (past later : List Reply) :
    history id (past ++ later) = history id past ++ history id later :=
  List.filter_append _ _

theorem history_snoc_of_ne (h : reply.id? ≠ some id) :
    history id (past ++ [reply]) = history id past := by
  rw [history_append, history_cons_of_ne h]
  exact List.append_nil _

theorem history_snoc_of_eq (h : reply.id? = some id) :
    history id (past ++ [reply]) = history id past ++ [reply] := by
  rw [history_append, history_cons_of_eq h]
  rfl

/-! ## One step -/

/-- A reply is about the context that the step shall make, or about one that the host has. -/
theorem Consistent.new?_or_live (hs : Consistent logger past s)
    (h : Effect logger s new? reply s') (hid : reply.id? = some id) :
    new? = some id ∨ s.live id ≠ none := by
  cases h with
  | made hc => exact .inl (hc ▸ hid)
  | refused => exact .inl hid
  | changed => cases hid
  | @dropped i c _ hc =>
    have hfate := hs.fate i
    rw [hc] at hfate
    obtain ⟨c₀, g, -, rfl, hi, -⟩ := hfate.of_live
    obtain rfl : i = id := hi.symm.trans (Option.some.inj hid)
    right
    rw [hc]
    exact Option.some_ne_none _
  | passed hreply =>
    rw [hreply] at hid
    cases hid

theorem Consistent.told_after (hs : Consistent logger past s)
    (h : Effect logger s new? reply s') :
    World.lifecycle (s'.world.heard logger) = (past ++ [reply]).flatMap Reply.lifecycle := by
  have hflat : (past ++ [reply]).flatMap Reply.lifecycle =
      World.lifecycle (s.world.heard logger) ++ reply.lifecycle := by
    rw [List.flatMap_append, hs.told, List.flatMap_singleton]
  rw [hflat]
  cases h with
  | made hid _ told => rw [told, Reply.lifecycle, hid]
  | refused told => exact told
  | changed _ _ told => exact told
  | @dropped i c _ hc told =>
    have hfate := hs.fate i
    rw [hc] at hfate
    obtain ⟨c₀, g, -, rfl, -, hlogger⟩ := hfate.of_live
    exact told hlogger
  | passed hreply told =>
    cases reply with
    | used => exact told
    | absent => exact told
    | _ => cases hreply

/-- A step that the host is not replied about a context for leaves its fate. -/
theorem Consistent.fate_of_ne (hs : Consistent logger past s) (hreply : reply.id? ≠ some id)
    {live : Option Context} (hlive : live = s.live id) :
    Fate logger id (history id (past ++ [reply])) live := by
  rw [history_snoc_of_ne hreply, hlive]
  exact hs.fate id

theorem Consistent.after_effect (hs : Consistent logger past s)
    (h : Effect logger s new? reply s') (hnew : ∀ id, new? = some id → history id past = []) :
    Consistent logger (past ++ [reply]) s' := by
  refine ⟨fun i => ?_, hs.told_after h⟩
  have hfate := hs.fate i
  cases h with
  | @made id c w hid hlogger =>
    show Fate logger i _ (Function.update s.live id (some c) i)
    have hreply : (Reply.made c).id? = some id := congrArg some hid
    by_cases hi : i = id
    · subst hi
      rw [history_snoc_of_eq hreply, hnew i rfl, Function.update_self]
      exact .living c.global hid hlogger
    · refine hs.fate_of_ne ?_ (Function.update_of_ne hi _ _)
      rw [hreply]
      exact fun h => hi (Option.some.inj h).symm
  | @refused id e w =>
    show Fate logger i _ (s.live i)
    by_cases hi : i = id
    · subst hi
      rw [hnew i rfl] at hfate
      rw [history_snoc_of_eq rfl, hnew i rfl, hfate.live_eq_none]
      exact .refused e
    · refine hs.fate_of_ne ?_ rfl
      rintro ⟨⟩
      exact hi rfl
  | @changed id c g w hc =>
    show Fate logger i _ (Function.update s.live id (some { c with global := g }) i)
    have hreply : Reply.used.id? ≠ some i := by rintro ⟨⟩
    by_cases hi : i = id
    · subst hi
      rw [hc] at hfate
      obtain ⟨c₀, g₀, hpast, rfl, hid, hlogger⟩ := hfate.of_live
      rw [history_snoc_of_ne hreply, hpast, Function.update_self]
      exact .living g hid hlogger
    · exact hs.fate_of_ne hreply (Function.update_of_ne hi _ _)
  | @dropped id c w hc =>
    show Fate logger i _ (Function.update s.live id none i)
    have hdropped := hs.fate id
    rw [hc] at hdropped
    obtain ⟨c₀, g₀, hpast, rfl, hid, -⟩ := hdropped.of_live
    have hreply : (Reply.dropped { c₀ with global := g₀ }).id? = some id := congrArg some hid
    by_cases hi : i = id
    · subst hi
      rw [history_snoc_of_eq hreply, hpast, Function.update_self]
      exact .gone g₀ hid
    · refine hs.fate_of_ne ?_ (Function.update_of_ne hi _ _)
      rw [hreply]
      exact fun h => hi (Option.some.inj h).symm
  | passed hreply =>
    refine hs.fate_of_ne ?_ rfl
    rw [hreply]
    exact (Option.some_ne_none i).symm

/-! ## Runs -/

/-- The contexts that the steps shall make have identifiers of their own, which nothing was replied
about so far. -/
structure Unused (past : List Reply) (steps : List Step) : Prop where
  distinct : (steps.filterMap Step.new?).Nodup
  unmet : ∀ id ∈ steps.filterMap Step.new?, history id past = []

theorem Unused.of_cons {step : Step} {rest : List Step} (h : Unused past (step :: rest)) :
    Unused past rest ∧ (∀ id, step.new? = some id → history id past = []) ∧
      ∀ id ∈ rest.filterMap Step.new?, step.new? ≠ some id := by
  have hdistinct := h.distinct
  have hunmet := h.unmet
  cases hnew : step.new? with
  | none =>
    rw [List.filterMap_cons_none hnew] at hdistinct hunmet
    exact ⟨⟨hdistinct, hunmet⟩, by rintro _ ⟨⟩, by rintro _ - ⟨⟩⟩
  | some i =>
    rw [List.filterMap_cons_some hnew] at hdistinct hunmet
    obtain ⟨hi, hrest⟩ := List.nodup_cons.mp hdistinct
    refine ⟨⟨hrest, fun id hid => hunmet id (List.mem_cons_of_mem i hid)⟩, ?_, ?_⟩
    · rintro _ ⟨⟩
      exact hunmet i List.mem_cons_self
    · rintro _ hmem ⟨⟩
      exact hi hmem

/-- Nothing is replied about an identifier before its own step: the step before does not make it,
and the host does not have it. -/
theorem Consistent.unused_after (hs : Consistent logger past s) {step : Step} {rest : List Step}
    (hunused : Unused past (step :: rest)) (h : Effect logger s step.new? reply s') :
    Unused (past ++ [reply]) rest := by
  obtain ⟨hrest, -, hother⟩ := hunused.of_cons
  refine ⟨hrest.distinct, fun id hid => ?_⟩
  have hunmet := hrest.unmet id hid
  have hfate := hs.fate id
  rw [hunmet] at hfate
  have hreply : reply.id? ≠ some id := by
    intro habout
    rcases hs.new?_or_live h habout with hnew | hlive
    · exact hother id hid hnew
    · exact hlive hfate.live_eq_none
  rw [history_snoc_of_ne hreply]
  exact hunmet

theorem Consistent.after_run (hlogger : logger ≠ .silent) {steps : List Step}
    {replies : List Reply} (hs : Consistent logger past s) (hunused : Unused past steps)
    (hrun : run logger depth steps s = some (replies, s')) :
    Consistent logger (past ++ replies) s' := by
  induction steps generalizing past s replies with
  | nil =>
    cases hrun
    rw [List.append_nil]
    exact hs
  | cons step rest ih =>
    obtain ⟨reply, s₁, later, hstep, hrest, rfl⟩ := run_cons hrun
    have heffect := effect_of_perform hlogger hstep
    have hs₁ := hs.after_effect heffect hunused.of_cons.2.1
    have hs' := ih hs₁ (hs.unused_after hunused heffect) hrest
    rwa [List.append_assoc] at hs'

/-! ## What the log says -/

theorem filter_lifecycle (replies : List Reply) :
    (replies.flatMap Reply.lifecycle).filter (·.context? = some id) =
      (history id replies).flatMap Reply.lifecycle := by
  induction replies with
  | nil => rfl
  | cons r rest ih =>
    have hlifecycle : ∀ event ∈ r.lifecycle, event.context? = r.id? := by
      cases r <;> simp [Reply.lifecycle, Reply.id?, AuditEvent.context?]
    rw [List.flatMap_cons, List.filter_append, ih]
    by_cases hr : r.id? = some id
    · have hall : r.lifecycle.filter (·.context? = some id) = r.lifecycle :=
        List.filter_eq_self.mpr fun event h => by simpa [hlifecycle event h] using hr
      rw [history_cons_of_eq hr, List.flatMap_cons, hall]
    · have hnone : r.lifecycle.filter (·.context? = some id) = [] :=
        List.filter_eq_nil_iff.mpr fun event h => by simpa [hlifecycle event h] using hr
      rw [history_cons_of_ne hr, hnone, List.nil_append]

theorem filter_context_lifecycle (log : List AuditEvent) (id : String) :
    (World.lifecycle log).filter (·.context? = some id) = log.filter (·.context? = some id) := by
  rw [World.lifecycle, List.filter_filter]
  refine List.filter_congr fun event _ => ?_
  cases event.context? with
  | none => rfl
  | some context => simp

/-- What the log says of one context can be read off the replies about it. -/
theorem Consistent.filter_log (hs : Consistent logger past s) (id : String) :
    (s.world.heard logger).filter (·.context? = some id) =
      (history id past).flatMap Reply.lifecycle := by
  rw [← filter_context_lifecycle, hs.told, filter_lifecycle]

theorem created_mem_before {names : List String} {log before after : List AuditEvent}
    (h : .contextCreated id names :: log = before ++ .contextDestroyed id :: after) :
    .contextCreated id names ∈ before := by
  cases before with
  | nil => cases h
  | cons event rest =>
    rw [(List.cons.inj h).1]
    exact List.mem_cons_self

/-- The replies about a context, and the events that say the same, agree whatever its fate is. -/
theorem Fate.accounts {live : Option Context} (h : Fate logger id past live) :
    Accounts id (past.flatMap Reply.lifecycle) past live := by
  cases h with
  | unmade => constructor <;> simp
  | refused e => constructor <;> simp [Reply.lifecycle]
  | living g hid =>
    subst hid
    constructor
    case ordered => exact fun before after h => ⟨_, created_mem_before h⟩
    all_goals simp [Reply.lifecycle, AuditEvent.creates, eq_comm]
  | gone g hid =>
    subst hid
    constructor
    case ordered => exact fun before after h => ⟨_, created_mem_before h⟩
    all_goals simp [Reply.lifecycle, AuditEvent.creates, eq_comm]

theorem mem_history {replies : List Reply} (h : reply.id? = some id) :
    reply ∈ history id replies ↔ reply ∈ replies := by
  rw [history, List.mem_filter]
  exact and_iff_left (decide_eq_true h)

theorem countP_creates_filter (id : String) (log : List AuditEvent) :
    (log.filter (·.context? = some id)).countP (·.creates id) = log.countP (·.creates id) := by
  rw [List.countP_filter]
  refine List.countP_congr fun event _ => ?_
  cases event <;> simp [AuditEvent.creates, AuditEvent.context?]

/-- What a log says of a context is said by its events about the context. -/
theorem Accounts.of_filter {log : List AuditEvent} {replies : List Reply} {live : Option Context}
    (h : Accounts id (log.filter (·.context? = some id)) (history id replies) live) :
    Accounts id log replies live := by
  have hmem : ∀ (events : List AuditEvent) (event : AuditEvent), event.context? = some id →
      (event ∈ events.filter (·.context? = some id) ↔ event ∈ events) := by
    intro events event hevent
    rw [List.mem_filter]
    exact and_iff_left (decide_eq_true hevent)
  have hdestroyed := hmem log (.contextDestroyed id) rfl
  have hcreated := fun names => hmem log (.contextCreated id names) rfl
  constructor
  case created_once =>
    rw [← countP_creates_filter]
    exact h.created_once
  case destroyed_once =>
    have hcount : (log.filter (·.context? = some id)).count (.contextDestroyed id) =
        log.count (.contextDestroyed id) := List.count_filter (decide_eq_true rfl)
    rw [← hcount]
    exact h.destroyed_once
  case ordered =>
    intro before after hlog
    have hsplit : log.filter (·.context? = some id) =
        before.filter (·.context? = some id) ++
          .contextDestroyed id :: after.filter (·.context? = some id) := by
      rw [hlog, List.filter_append, List.filter_cons_of_pos (by simp [AuditEvent.context?])]
    obtain ⟨names, hnames⟩ := h.ordered _ _ hsplit
    exact ⟨names, List.mem_of_mem_filter hnames⟩
  case created =>
    intro names
    rw [← hcreated, h.created]
    refine exists_congr fun c => and_congr_left fun hc => ?_
    exact mem_history (congrArg some hc.1)
  case destroyed =>
    rw [← hdestroyed, h.destroyed]
    refine exists_congr fun c => and_congr_left fun hc => ?_
    exact mem_history (congrArg some hc)
  case refused =>
    intro e he event hevent hid
    exact h.refused e ((mem_history rfl).mpr he) event ((hmem log event hid).mpr hevent) hid
  case living =>
    intro names
    rw [← hcreated, ← hdestroyed]
    exact h.living names

/-- A new session: no contexts, and a logger that has heard of nothing. -/
def start (w : World) : AuditLogger × Session := (w.newLog.1, ⟨w.newLog.2, fun _ => none⟩)

/-- The audit log of contexts. Whatever a host does with contexts of its own identifiers, the log
says of each identifier what became of it: it tells once of the creation of a context, with the
capabilities that the context has, it tells once of the end of the context and later than of its
creation, it tells nothing of a context that could not be made, and the contexts that are alive are
those whose creation it tells of and whose end it does not. -/
theorem lifecycle_audit (w₀ : World) (depth : Nat) (steps : List Step) (replies : List Reply)
    (s : Session) (hids : (steps.filterMap Step.new?).Nodup)
    (hrun : run (start w₀).1 depth steps (start w₀).2 = some (replies, s)) (id : String) :
    Accounts id (s.world.heard (start w₀).1) replies (s.live id) := by
  have hstart : Consistent (start w₀).1 [] (start w₀).2 :=
    ⟨fun _ => .unmade, congrArg World.lifecycle w₀.heard_newLog⟩
  have hs := hstart.after_run w₀.newLog_ne_silent ⟨hids, fun _ _ => rfl⟩ hrun
  rw [List.nil_append] at hs
  have haccounts := (hs.fate id).accounts
  rw [← hs.filter_log] at haccounts
  exact haccounts.of_filter

/-- One context is made and dropped, another fails for want of a bridge, a third fails because the
namespace has its console already, and a fourth lives on after its guest has been at it. -/
theorem lifecycle_audit_interleaved :
    let w₀ := World.initial ⟨0, 0⟩ fun _ => HostCall.plainAnswer
    let taken := Namespace.empty.write "console" (.fixedHidden .null)
    let steps : List Step := [
      .create "a" .empty .discard false none none, .create "b" .empty .forward false none none,
      .create "c" .empty .forward true (some 7) (some 8), .change "c" (.edit (.delete "net")),
      .create "d" taken .discard false none none, .log ⟨⟨.forward 7, .keeping 0⟩, .null⟩ [],
      .drop "a", .change "a" (.edit (.set "x" .null)), .drop "d"]
    ∃ replies s, run (start w₀).1 1 steps (start w₀).2 = some (replies, s) ∧
      s.world.heard (start w₀).1 =
        [.capabilityInstalled "console", .contextCreated "a" ["console"],
          .capabilityInstalled "console", .capabilityInstalled "net", .capabilityInstalled "tls",
          .contextCreated "c" ["console", "net", "tls"], .capabilityCollision "console",
          .hostFunctionMissing consoleKey, .contextDestroyed "a"] ∧
      ∀ id, Accounts id (s.world.heard (start w₀).1) replies (s.live id) := by
  intro w₀ taken steps
  have hheard : (run (start w₀).1 1 steps (start w₀).2).map
      (fun p => p.2.world.heard (start w₀).1) = some
        [.capabilityInstalled "console", .contextCreated "a" ["console"],
          .capabilityInstalled "console", .capabilityInstalled "net", .capabilityInstalled "tls",
          .contextCreated "c" ["console", "net", "tls"], .capabilityCollision "console",
          .hostFunctionMissing consoleKey, .contextDestroyed "a"] := by
    decide +kernel
  obtain ⟨⟨replies, s⟩, hrun, hlog⟩ := Option.map_eq_some_iff.mp hheard
  have hids : (steps.filterMap Step.new?).Nodup := by decide
  exact ⟨replies, s, hrun, hlog,
    fun id => lifecycle_audit w₀ 1 steps replies s hids hrun id⟩

end Session

end CapabilityGateway
