import CapabilityGateway.Proofs.Audit.LogLine
import CapabilityGateway.Proofs.Installation.Faults
import CapabilityGateway.Proofs.Sandbox.Reports
import Mathlib.Data.Set.Insert

/-!
# Nothing unexamined gets into a log

A log line shows the texts of its event as they are, so a text that somebody made up could forge
lines. The gateway never records such a text. A capability name is recorded once it has been found
valid, the only key that is recorded is the console's, and the identifiers of contexts come from the
host.

The host can hand events to a logger itself, and these say what the host likes. So a log is taken
apart turn by turn, and only what the host has written by hand is left unexamined.

* `AuditEvent.Vetted`: what holds of an event that the gateway records.
* `World.HearsOnly`: between two worlds no logger has heard of anything else.
* `Session.vetted_of_act`: whatever happens in a session leads to such a world.
* `Session.log_lines_clean`: the log after a session in which the host also logs by hand.
-/

namespace CapabilityGateway

namespace AuditEvent

/-- The capability names in the event. -/
def capabilityNames : AuditEvent → List String
  | .contextCreated _ names => names
  | .capabilityInstalled name | .capabilityCollision name => [name]
  | .contextDestroyed _ | .hostFunctionMissing _ => []

/-- The key of a host function in the event. -/
def key? : AuditEvent → Option String
  | .hostFunctionMissing key => some key
  | _ => none

/-- The event is about one of the contexts `ids`, about valid capability names or about the key of
the console. -/
structure Vetted (ids : Set String) (event : AuditEvent) : Prop where
  context : ∀ id, event.context? = some id → id ∈ ids
  names : ∀ name ∈ event.capabilityNames, CapabilityName.isValid name = true
  key : ∀ key, event.key? = some key → key = consoleKey

namespace Vetted

variable {ids : Set String} {id name : String} {names : List String} {event : AuditEvent}

theorem contextCreated (hid : id ∈ ids)
    (hnames : ∀ name ∈ names, CapabilityName.isValid name = true) :
    (AuditEvent.contextCreated id names).Vetted ids :=
  ⟨by rintro _ ⟨⟩; exact hid, hnames, nofun⟩

theorem contextDestroyed (hid : id ∈ ids) : (AuditEvent.contextDestroyed id).Vetted ids :=
  ⟨by rintro _ ⟨⟩; exact hid, nofun, nofun⟩

theorem capabilityInstalled (h : CapabilityName.isValid name = true) :
    (AuditEvent.capabilityInstalled name).Vetted ids :=
  ⟨nofun, by simpa [capabilityNames] using h, nofun⟩

theorem capabilityCollision (h : CapabilityName.isValid name = true) :
    (AuditEvent.capabilityCollision name).Vetted ids :=
  ⟨nofun, by simpa [capabilityNames] using h, nofun⟩

theorem lineLost : (AuditEvent.hostFunctionMissing consoleKey).Vetted ids :=
  ⟨nofun, nofun, by rintro _ ⟨⟩; rfl⟩

/-- The texts in a log line of the event are those that were looked at. -/
theorem clean_texts (h : event.Vetted ids) (hids : ∀ id ∈ ids, Text.Clean id.toList) :
    ∀ s ∈ event.texts, Text.Clean s.toList := by
  have hnames : ∀ name ∈ event.capabilityNames, Text.Clean name.toList := fun name hname =>
    CapabilityName.clean_of_isValid (h.names name hname)
  cases event with
  | contextCreated context names =>
    exact List.forall_mem_cons.mpr ⟨hids context (h.context context rfl), hnames⟩
  | contextDestroyed context =>
    exact List.forall_mem_singleton.mpr (hids context (h.context context rfl))
  | capabilityInstalled name => exact hnames
  | capabilityCollision name => exact hnames
  | hostFunctionMissing key =>
    have hkey : Text.Clean consoleKey.toList := by decide +kernel
    rw [h.key key rfl]
    exact List.forall_mem_singleton.mpr hkey

theorem clean_logLine (h : event.Vetted ids) (hids : ∀ id ∈ ids, Text.Clean id.toList)
    (t : Timestamp) : Text.Clean (AuditEntry.mk t event).logLine.toList :=
  (AuditEntry.clean_logLine_iff _).mpr (h.clean_texts hids)

end Vetted

end AuditEvent

namespace World

variable {P : AuditEvent → Prop} {w w' w'' : World} {logger : AuditLogger}

/-- Whatever any logger has heard between the two worlds, `P` holds of it. -/
def HearsOnly (P : AuditEvent → Prop) (w w' : World) : Prop :=
  ∀ l, ∃ told, w'.heard l = w.heard l ++ told ∧ ∀ event ∈ told, P event

namespace HearsOnly

theorem refl (w : World) : w.HearsOnly P w :=
  fun _ => ⟨[], (List.append_nil _).symm, nofun⟩

theorem trans (h₁ : w.HearsOnly P w') (h₂ : w'.HearsOnly P w'') : w.HearsOnly P w'' := by
  intro l
  obtain ⟨first, hfirst, hP₁⟩ := h₁ l
  obtain ⟨second, hsecond, hP₂⟩ := h₂ l
  refine ⟨first ++ second, ?_, List.forall_mem_append.mpr ⟨hP₁, hP₂⟩⟩
  rw [hsecond, hfirst, List.append_assoc]

theorem imp {Q : AuditEvent → Prop} (h : w.HearsOnly P w') (hPQ : ∀ event, P event → Q event) :
    w.HearsOnly Q w' := by
  intro l
  obtain ⟨told, htold, hP⟩ := h l
  exact ⟨told, htold, fun event hevent => hPQ event (hP event hevent)⟩

theorem of_recorded {events : List AuditEvent} (h : w.Recorded w' logger events)
    (hP : ∀ event ∈ events, P event) : w.HearsOnly P w' := by
  intro l
  by_cases hsilent : l = .silent
  · subst hsilent
    exact refl w .silent
  · refine ⟨_, h l hsilent, fun event hevent => hP event ?_⟩
    split at hevent
    · exact hevent
    · cases hevent

theorem of_losesLines (h : w.LosesLines w') (hP : P (.hostFunctionMissing consoleKey)) :
    w.HearsOnly P w' := by
  intro l
  obtain ⟨n, hn⟩ := h l
  refine ⟨_, hn, fun event hevent => ?_⟩
  rwa [List.eq_of_mem_replicate hevent]

end HearsOnly

end World

/-! ## Installations -/

namespace Installation

open CapabilityName (Usable isValid_iff)

variable {g : Namespace} {bs : List (String × Value)} {name : String}

/-- A collision is noticed only of a name that was found valid. -/
theorem isValid_of_collision (h : (run g bs).result = .error (.collision name)) :
    CapabilityName.isValid name = true := by
  by_cases hclean : ∀ i b, bs[i]? = some b → ¬ Faulty g (bs.take i) b
  · by_cases hne : bs = []
    · rw [run_eq_emptySet_iff.mpr hne] at h
      cases h
    · rw [run_eq_ok_iff.mpr ⟨hne, hclean⟩] at h
      cases h
  · push Not at hclean
    obtain ⟨i, b, hb, hfaulty⟩ := hclean
    obtain ⟨j, c, hfirst⟩ := exists_firstFault hb hfaulty
    rw [hfirst.run_self] at h
    have hcomplaint : complaint (bs.take j) c = .collision name := Except.error.inj h
    unfold complaint at hcomplaint
    split at hcomplaint
    · cases hcomplaint
    · rename_i hname
      split at hcomplaint
      · cases hcomplaint
      · cases hcomplaint
        exact isValid_iff.mpr (not_not.mp hname)

end Installation

namespace Namespace

theorem Change.vetted_told (c : Change) (g : Namespace) (ids : Set String) :
    ∀ event ∈ c.told g, event.Vetted ids := by
  intro event hevent
  cases c with
  | edit e => cases hevent
  | install bs =>
    rw [told] at hevent
    cases hresult : (Installation.run g bs).result with
    | ok =>
      have hvalid := (Installation.installable_of_run_ok hresult).valid
      rw [hresult] at hevent
      obtain ⟨name, hname, rfl⟩ := List.mem_map.mp hevent
      obtain ⟨b, hb, rfl⟩ := List.mem_map.mp hname
      exact .capabilityInstalled (hvalid b (List.mem_filter.mp hb).1)
    | error e =>
      rw [hresult] at hevent
      cases e with
      | collision name =>
        obtain rfl := List.mem_singleton.mp hevent
        exact .capabilityCollision (Installation.isValid_of_collision hresult)
      | _ => cases hevent

theorem Change.hearsOnly_perform (c : Change) (logger : AuditLogger) (g : Namespace) (w : World)
    (ids : Set String) : w.HearsOnly (·.Vetted ids) (c.perform logger (g, w)).2 :=
  .of_recorded (c.recorded_perform (g, w)) (c.vetted_told g ids)

end Namespace

/-! ## Contexts -/

namespace Context

variable {ids : Set String} {id : String} {logger : AuditLogger} {w w' : World}

/-- How a construction ends that shall make the context `id`, whether or not it makes it. -/
structure VettedFor (ids : Set String) (id : String) (w : World)
    (r : Except ContextError Context × World) : Prop where
  context : ∀ c, r.1 = .ok c → c.id = id
  hears : w.HearsOnly (·.Vetted ids) r.2

theorem vettedFor_install (hid : id ∈ ids) (g : Namespace) (capabilities : CapabilitySet)
    (logger : AuditLogger) (w : World) :
    VettedFor ids id w (install id g capabilities logger w) := by
  have hannounced : w.HearsOnly (·.Vetted ids)
      ((Installation.run g capabilities.bindings).announce logger w) :=
    (Namespace.Change.install capabilities.bindings).hearsOnly_perform logger g w ids
  by_cases h : Installation.Installable g capabilities.bindings
  · rw [install_of_installable h]
    refine ⟨by rintro _ ⟨⟩; rfl, hannounced.trans (.of_recorded
      (World.recorded_emit_audit _ rfl logger (.contextCreated id capabilities.names)) ?_)⟩
    have hnames : ∀ name ∈ capabilities.names, CapabilityName.isValid name = true := by
      intro name hname
      obtain ⟨b, hb, rfl⟩ := List.mem_map.mp hname
      exact h.valid b hb
    exact List.forall_mem_singleton.mpr (.contextCreated hid hnames)
  · obtain ⟨e, he⟩ := Installation.run_of_not_installable h
    rw [install_of_refused he]
    exact ⟨nofun, hannounced⟩

theorem VettedFor.after (h : w.Recorded w' logger []) {r : Except ContextError Context × World}
    (hr : VettedFor ids id w' r) : VettedFor ids id w r :=
  ⟨hr.context, (World.HearsOnly.of_recorded h nofun).trans hr.hears⟩

theorem vettedFor_create (hid : id ∈ ids) (g : Namespace) (options : ContextOptions)
    (host : HostServices) (w : World) : VettedFor ids id w (create id g options host w) := by
  cases hmode : sinkMode? options host with
  | none =>
    rw [create_of_no_bridge hmode]
    exact ⟨nofun, .refl w⟩
  | some mode =>
    by_cases htransport : options.network = true ∧ host.transport = none
    · rw [create_of_no_transport hmode htransport.1 htransport.2]
      exact ⟨nofun, .of_recorded (recorded_create_console _ w .tracing) nofun⟩
    · obtain ⟨capabilities, w', hwired, hcreate⟩ :=
        @create_eq_install id g options host w mode hmode fun hn ht => htransport ⟨hn, ht⟩
      rw [hcreate]
      exact (vettedFor_install hid g capabilities _ w').after (hwired.unrecorded .tracing)

theorem hearsOnly_drop {c : Context} (hid : c.id ∈ ids) (w : World) :
    w.HearsOnly (·.Vetted ids) (c.drop w) :=
  .of_recorded (w.recorded_emit_audit rfl c.logger (.contextDestroyed c.id))
    (List.forall_mem_singleton.mpr (.contextDestroyed hid))

end Context

/-! ## Sessions -/

namespace Session

variable {ids : Set String} {logger : AuditLogger} {depth : Nat} {s s' : Session} {reply : Reply}

/-- The contexts of the host are among `ids`. -/
def Knows (ids : Set String) (s : Session) : Prop := ∀ name c, s.live name = some c → c.id ∈ ids

/-- The identifier of the context that an act shall make. -/
def Act.new? : Act → Option String
  | .host step => step.new?
  | .install .. | .visit .. => none

/-- Loggers have heard only of what was looked at, and the contexts are still among `ids`. -/
structure Vetted (ids : Set String) (s s' : Session) : Prop where
  knows : s'.Knows ids
  hears : s.world.HearsOnly (·.Vetted ids) s'.world

namespace Vetted

theorem of_world (hs : s.Knows ids) {w : World} (hw : s.world.HearsOnly (·.Vetted ids) w) :
    s.Vetted ids ⟨w, s.live⟩ :=
  ⟨hs, hw⟩

theorem refl (hs : s.Knows ids) : s.Vetted ids s := of_world hs (.refl s.world)

/-- One context is new, or changed, or gone. -/
theorem of_update (hs : s.Knows ids) {w : World} (hw : s.world.HearsOnly (·.Vetted ids) w)
    (name : String) {context : Option Context} (hc : ∀ c, context = some c → c.id ∈ ids) :
    s.Vetted ids ⟨w, Function.update s.live name context⟩ := by
  refine ⟨fun other c hlive => ?_, hw⟩
  by_cases hname : other = name
  · subst hname
    exact hc c (by simpa using hlive)
  · exact hs other c (by simpa [hname] using hlive)

end Vetted

theorem vetted_constructed (hs : s.Knows ids) {id : String} (hid : id ∈ ids)
    {r : Except ContextError Context × World} (hr : Context.VettedFor ids id s.world r)
    (h : s.constructed id r = (reply, s')) : s.Vetted ids s' := by
  obtain ⟨result, w⟩ := r
  cases result with
  | ok c =>
    cases h
    refine .of_update hs hr.hears id ?_
    rintro _ ⟨⟩
    rwa [hr.context c rfl]
  | error e =>
    cases h
    exact .of_world hs hr.hears

theorem vetted_computed (hs : s.Knows ids) {α : Type} {o : Outcome α}
    (ho : Outcome.LosesLines s.world o) (h : s.computed o = some (reply, s')) :
    s.Vetted ids s' := by
  cases o with
  | none => cases h
  | some p =>
    cases h
    exact .of_world hs (.of_losesLines (ho p.1 p.2 rfl) .lineLost)

theorem vetted_of_perform (hs : s.Knows ids) {step : Step}
    (hnew : ∀ id, step.new? = some id → id ∈ ids)
    (h : step.perform logger depth s = some (reply, s')) : s.Vetted ids s' := by
  cases step with
  | create id g console network bridge transport =>
    have hid := hnew id rfl
    exact vetted_constructed hs hid (Context.vettedFor_create hid g _ _ s.world)
      (Option.some.inj h)
  | assemble id g capabilities =>
    have hid := hnew id rfl
    exact vetted_constructed hs hid (Context.vettedFor_install hid g capabilities logger s.world)
      (Option.some.inj h)
  | equip sink transport =>
    cases h
    have hconsole := Context.recorded_create_console sink s.world logger
    have hequipped : s.world.Recorded
        (Network.ofTransport transport (Console.create sink s.world).2).2 logger [] := by
      rw [Network.ofTransport_eq]
      exact hconsole.trans (World.recorded_next _ _ logger)
    exact .of_world hs (.of_recorded hequipped (List.forall_mem_nil _))
  | change id c =>
    obtain ⟨-, rfl⟩ | ⟨context, hlive, -, rfl⟩ := perform_change_cases h
    · exact .refl hs
    · refine .of_update hs (c.hearsOnly_perform logger context.global s.world ids) id ?_
      rintro _ ⟨⟩
      exact hs id context hlive
  | call f arguments =>
    exact vetted_computed hs (Callable.invoke_losesLines depth f arguments s.world) h
  | log console arguments =>
    exact vetted_computed hs
      ((Callable.invoke_losesLines depth).write console.sink arguments s.world) h
  | rebind bridge c =>
    cases h
    exact .of_world hs (.of_losesLines (.change s.world bridge c) .lineLost)
  | drop id =>
    obtain ⟨-, rfl⟩ | ⟨context, hlive, -, rfl⟩ := perform_drop_cases h
    · exact .refl hs
    · refine .of_update hs (Context.hearsOnly_drop (hs id context hlive) s.world) id ?_
      rintro _ ⟨⟩

theorem vetted_of_act (hs : s.Knows ids) {act : Act} (hnew : ∀ id, act.new? = some id → id ∈ ids)
    (h : act.perform logger depth s = some (reply, s')) : s.Vetted ids s' := by
  cases act with
  | host step => exact vetted_of_perform hs hnew h
  | install g bs =>
    cases h
    exact .of_world hs
      ((Namespace.Change.install bs).hearsOnly_perform logger g s.world ids)
  | visit id name member arguments =>
    obtain rfl | ⟨context, v, -, -, hcall⟩ := perform_visit_cases h
    · exact .refl hs
    · exact vetted_computed hs
        ((Callable.invoke_losesLines depth).call (called v member) arguments s.world) hcall

/-! ## Sessions with entries by hand -/

/-- Something that happens with a logger at hand. -/
inductive Turn where
  /-- An act that reports to the logger. -/
  | act (logger : AuditLogger) (act : Act)
  /-- The host itself hands an event to the logger. -/
  | note (logger : AuditLogger) (event : AuditEvent)

def Turn.new? : Turn → Option String
  | .act _ a => a.new?
  | .note .. => none

def Turn.perform (depth : Nat) (s : Session) : Turn → Option Session
  | .act logger a => (a.perform logger depth s).map Prod.snd
  | .note logger event => some ⟨s.world.audit logger event, s.live⟩

/-- The session after some turns. -/
def takeTurns (depth : Nat) : List Turn → Session → Option Session
  | [], s => some s
  | turn :: rest, s =>
    match turn.perform depth s with
    | some s => takeTurns depth rest s
    | none => none

/-- What a logger may hear of a turn. Of a note it is what the host says. Of an act it is something
that was looked at, and there is no control character in a log line of it. -/
def Turn.Allows (ids : Set String) : Turn → AuditEvent → Prop
  | .act .., event =>
    event.Vetted ids ∧ ∀ t, Text.Clean (AuditEntry.mk t event).logLine.toList
  | .note _ noted, event => event = noted

theorem allowed_of_turn (hids : ∀ id ∈ ids, Text.Clean id.toList) (hs : s.Knows ids) {turn : Turn}
    (hnew : ∀ id, turn.new? = some id → id ∈ ids) (h : turn.perform depth s = some s') :
    s'.Knows ids ∧ s.world.HearsOnly (turn.Allows ids) s'.world := by
  cases turn with
  | act logger act =>
    obtain ⟨⟨reply, s₁⟩, hact, rfl⟩ := Option.map_eq_some_iff.mp h
    have hvetted := vetted_of_act hs hnew hact
    exact ⟨hvetted.knows, hvetted.hears.imp fun event hevent =>
      ⟨hevent, fun t => hevent.clean_logLine hids t⟩⟩
  | note logger event =>
    cases h
    exact ⟨hs, .of_recorded (s.world.recorded_audit logger event)
      (List.forall_mem_singleton.mpr rfl)⟩

/-- What a logger hears of a session falls into what it hears of each turn. If the host logs by hand
in a turn, that is what the host says. Otherwise it is about contexts that the host has made, about
valid capability names and about the key of the console, whatever names the host was asked to
install and whatever the guests wrote to their consoles. So no log line has a control character, as
long as the identifiers of the contexts have none. -/
theorem log_lines_clean (hids : ∀ id ∈ ids, Text.Clean id.toList) (hs : s.Knows ids)
    {turns : List Turn} (hnew : ∀ turn ∈ turns, ∀ id, turn.new? = some id → id ∈ ids)
    (hrun : takeTurns depth turns s = some s') (l : AuditLogger) :
    ∃ parts : List (List AuditEvent), s'.world.heard l = s.world.heard l ++ parts.flatten ∧
      List.Forall₂ (fun turn part => ∀ event ∈ part, turn.Allows ids event) turns parts := by
  induction turns generalizing s with
  | nil =>
    cases hrun
    exact ⟨[], (List.append_nil _).symm, .nil⟩
  | cons turn rest ih =>
    obtain ⟨hturn, hrest⟩ := List.forall_mem_cons.mp hnew
    rw [takeTurns] at hrun
    cases hperform : turn.perform depth s with
    | none =>
      rw [hperform] at hrun
      cases hrun
    | some s₁ =>
      rw [hperform] at hrun
      obtain ⟨hs₁, hfirst⟩ := allowed_of_turn hids hs hturn hperform
      obtain ⟨part, hpart, hallowed⟩ := hfirst l
      obtain ⟨parts, hparts, hall⟩ := ih hs₁ hrest hrun
      refine ⟨part :: parts, ?_, .cons hallowed hall⟩
      rw [hparts, hpart, List.append_assoc, List.flatten_cons]

/-- A text that would look like an entry of its own comes as a name to install, behind a name that
is free and behind one that is taken, and in a console line that gets lost. It gets into the log
only by the hand of the host. -/
theorem log_lines_clean_forged :
    let w₀ := World.initial ⟨0, 0⟩ fun _ => HostCall.plainAnswer
    let logger := (start w₀).1
    let forged := "x\n[1970-01-01T00:00:00.000Z] Context destroyed: c"
    let taken := Namespace.empty.write "console" (.fixedHidden .null)
    let turns : List Turn := [
      .act logger (.install .empty [("net", .null), (forged, .null)]),
      .note logger (.capabilityInstalled forged),
      .act logger (.host (.create "c" .empty .forward false (some 7) none)),
      .act logger (.visit "c" "console" (some "log") [.string forged]),
      .act logger (.install taken [("console", .undefined), (forged, .null)]),
      .act logger (.host (.drop "c"))]
    ¬ Text.Clean forged.toList ∧
      ∃ s', takeTurns 2 turns (start w₀).2 = some s' ∧
        s'.world.heard logger =
          [.capabilityInstalled forged, .capabilityInstalled "console",
            .contextCreated "c" ["console"], .hostFunctionMissing consoleKey,
            .capabilityCollision "console", .contextDestroyed "c"] ∧
        ∃ parts : List (List AuditEvent),
          s'.world.heard logger = (start w₀).2.world.heard logger ++ parts.flatten ∧
          List.Forall₂ (fun turn part => ∀ event ∈ part, turn.Allows {"c"} event)
            turns parts := by
  intro w₀ logger forged taken turns
  have hheard : (takeTurns 2 turns (start w₀).2).map (fun s => s.world.heard logger) = some
        [.capabilityInstalled forged, .capabilityInstalled "console",
          .contextCreated "c" ["console"], .hostFunctionMissing consoleKey,
          .capabilityCollision "console", .contextDestroyed "c"] := by
    decide +kernel
  obtain ⟨s', hrun, hlog⟩ := Option.map_eq_some_iff.mp hheard
  have hids : ∀ id ∈ ({"c"} : Set String), Text.Clean id.toList := by
    rintro _ rfl
    decide +kernel
  have hnew : ∀ turn ∈ turns, ∀ id, turn.new? = some id → id ∈ ({"c"} : Set String) := by
    simp [turns, Turn.new?, Act.new?, Step.new?]
  have hstart : (start w₀).2.Knows {"c"} := by
    rintro _ _ ⟨⟩
  exact ⟨by decide +kernel, s', hrun, hlog, log_lines_clean hids hstart hnew hrun logger⟩

end Session

end CapabilityGateway
