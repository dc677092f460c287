import CapabilityGateway.Proofs.Audit.Recording
import CapabilityGateway.Proofs.Installation.Plan
import CapabilityGateway.Sandbox.Context

/-!
# Wiring up a context

Before anything is installed, the capabilities of a new context are made: a console, and two network
objects if they are asked for. Each of these objects is new, so its identity is none that was given
out before, and making them tells the audit nothing.

* `World.newSurface_eq`: the object that a list of members becomes.
* `Context.Wired`: what holds of capabilities that were made for some options.
* `Context.create_of_no_bridge`, `Context.create_of_no_transport`, `Context.create_eq_install`: a
  context fails for want of a bridge or of a transport, or its wired capabilities are installed.
* `Context.install_of_installable`, `Context.install_of_refused`: what becomes of them then.
-/

namespace CapabilityGateway

/-! ## New objects -/

namespace World

/-- The members of a new object whose identities start at `i`. -/
def membersFrom (i : Identity) : List (String × Behaviour) → List (String × Value)
  | [] => []
  | (name, behaviour) :: rest => (name, .function (.mk i behaviour)) :: membersFrom (i + 1) rest

/-- A new object whose members get their identities first, starting at `i`. -/
def surfaceFrom (i : Identity) (members : List (String × Behaviour)) : Value :=
  .object (i + members.length) (membersFrom i members)

theorem names_membersFrom (i : Identity) (members : List (String × Behaviour)) :
    Dictionary.names (membersFrom i members) = members.map Prod.fst := by
  induction members generalizing i with
  | nil => rfl
  | cons m rest ih =>
    rw [membersFrom, Dictionary.names_cons, List.map_cons, ih]

theorem mem_membersFrom {name : String} {v : Value} {i : Identity}
    {members : List (String × Behaviour)} (h : (name, v) ∈ membersFrom i members) :
    ∃ j b, v = .function (.mk j b) ∧ (name, b) ∈ members := by
  induction members generalizing i with
  | nil => cases h
  | cons m rest ih =>
    rcases List.mem_cons.mp h with he | h
    · cases he
      exact ⟨i, m.2, rfl, List.mem_cons_self⟩
    · obtain ⟨j, b, hv, hb⟩ := ih h
      exact ⟨j, b, hv, List.mem_cons_of_mem _ hb⟩

/-- A member of a new object is a callable with the behaviour that is given for its name. -/
theorem get?_membersFrom (i : Identity) (members : List (String × Behaviour)) (key : String) :
    match Dictionary.get? key members with
    | some b => ∃ j, Dictionary.get? key (membersFrom i members) = some (.function (.mk j b))
    | none => Dictionary.get? key (membersFrom i members) = none := by
  induction members generalizing i with
  | nil => rfl
  | cons m rest ih =>
    simp only [membersFrom, Dictionary.get?]
    by_cases h : m.1 = key
    · simp only [if_pos h]
      exact ⟨i, rfl⟩
    · simp only [if_neg h]
      exact ih (i + 1)

theorem newMembers_eq (w : World) (members : List (String × Behaviour)) :
    w.newMembers members =
      (membersFrom w.next members, { w with next := w.next + members.length }) := by
  induction members generalizing w with
  | nil => rfl
  | cons m rest ih =>
    simp only [newMembers, newCallable, fresh, ih, membersFrom, List.length_cons]
    rw [Nat.add_assoc, Nat.add_comm 1]

theorem newSurface_eq (w : World) {members : List (String × Behaviour)}
    (h : (members.map Prod.fst).Nodup) :
    w.newSurface members =
      (surfaceFrom w.next members, { w with next := w.next + members.length + 1 }) := by
  have hnodup : (Dictionary.names (membersFrom w.next members)).Nodup := by
    rwa [names_membersFrom]
  simp only [newSurface, newMembers_eq, newObject, fresh, Value.objectOf,
    Dictionary.ofList_of_nodup hnodup, surfaceFrom]

/-- Giving out identities is nothing that an audit logger hears of. -/
theorem recorded_next (w : World) (next : Identity) (logger : AuditLogger) :
    w.Recorded { w with next := next } logger [] := by
  intro l _
  cases l <;> simp [heard]

end World

/-! ## The objects of a context -/

namespace Console

/-- The members of a console object, all of which write to one sink. -/
def members (sink : Sink) : List (String × Behaviour) :=
  methods.map fun method => (method, .write sink)

theorem names_members (sink : Sink) : (members sink).map Prod.fst = methods := rfl

theorem create_eq (sink : Sink) (w : World) :
    create sink w =
      (⟨sink, World.surfaceFrom w.next (members sink)⟩,
        { w.emit (.consoleCreated sink.mode.name) with next := w.next + 7 }) := by
  have hnodup : ((members sink).map Prod.fst).Nodup := by
    rw [names_members]
    decide
  have hsurface := World.newSurface_eq (w.emit (.consoleCreated sink.mode.name)) hnodup
  unfold members at hsurface
  simp only [create, hsurface]
  rfl

end Console

namespace Network

theorem ofTransport_eq (transport : Identity) (w : World) :
    ofTransport transport w =
      (⟨World.surfaceFrom w.next (netMembers transport),
        World.surfaceFrom (w.next + 3) (tlsMembers transport)⟩,
        { w with next := w.next + 7 }) := by
  have hnet : ((netMembers transport).map Prod.fst).Nodup := by
    simp only [netMembers, List.map_cons, List.map_nil]
    decide
  have htls : ((tlsMembers transport).map Prod.fst).Nodup := by
    simp only [tlsMembers, List.map_cons, List.map_nil]
    decide
  rw [ofTransport, World.newSurface_eq w hnet]
  simp only
  rw [World.newSurface_eq _ htls]
  rfl

end Network

/-- The names of the capabilities that a context with the options receives, in the order of their
installation. -/
def ContextOptions.requested (options : ContextOptions) : List String :=
  if options.network then ["console", "net", "tls"] else ["console"]

namespace Context

/-- The capabilities were made for the options in the world `w`, and this left the world `w'`. -/
structure Wired (options : ContextOptions) (w : World) (capabilities : CapabilitySet)
    (w' : World) : Prop where
  names : capabilities.names = options.requested
  fresh : ∀ b ∈ capabilities.bindings, ∃ i properties, b.2 = .object i properties ∧ w.next ≤ i
  unrecorded : ∀ logger, w.Recorded w' logger []

/-! ## Creation -/

variable {id : String} {g : Namespace} {options : ContextOptions} {host : HostServices} {w : World}

theorem sinkMode?_eq_none_iff :
    sinkMode? options host = none ↔ options.console = .forward ∧ host.bridge = none := by
  unfold sinkMode?
  cases options.console <;> simp

theorem create_of_no_bridge (h : sinkMode? options host = none) :
    create id g options host w = (.error .bridgeRequired, w) := by
  simp only [create, h]

theorem create_of_no_transport {mode : SinkMode} (hmode : sinkMode? options host = some mode)
    (hnetwork : options.network = true) (htransport : host.transport = none) :
    create id g options host w =
      (.error .transportRequired, (Console.create ⟨mode, loggerFor options host⟩ w).2) := by
  simp only [create, hmode, hnetwork, htransport, if_true]

theorem recorded_create_console (sink : Sink) (w : World) (logger : AuditLogger) :
    w.Recorded (Console.create sink w).2 logger [] := by
  rw [Console.create_eq]
  exact (w.recorded_emit rfl logger).trans (World.recorded_next _ _ logger)

/-- With a bridge and a transport where they are needed, creation is the installation of
capabilities that were made for the options. -/
theorem create_eq_install {mode : SinkMode} (hmode : sinkMode? options host = some mode)
    (htransport : options.network = true → host.transport ≠ none) :
    ∃ capabilities w', Wired options w capabilities w' ∧
      create id g options host w = install id g capabilities (loggerFor options host) w' := by
  have hconsole := recorded_create_console ⟨mode, loggerFor options host⟩ w
  cases hnetwork : options.network with
  | false =>
    refine ⟨_, _, ⟨?_, ?_, hconsole⟩, by simp only [create, hmode, hnetwork]; rfl⟩
    · simp only [ContextOptions.requested, hnetwork]
      rfl
    · intro b hb
      rw [List.mem_singleton.mp hb, Console.create_eq]
      exact ⟨_, _, rfl, Nat.le_add_right _ _⟩
  | true =>
    obtain ⟨transport, ht⟩ := Option.ne_none_iff_exists'.mp (htransport hnetwork)
    refine ⟨_, _, ⟨?_, ?_, fun logger => ?_⟩,
      by simp only [create, hmode, hnetwork, ht, if_true]; rfl⟩
    · simp only [ContextOptions.requested, hnetwork]
      rfl
    · intro b hb
      rw [Network.ofTransport_eq, Console.create_eq] at hb
      simp only [CapabilitySet.bindings, List.mem_cons, List.not_mem_nil, or_false] at hb
      rcases hb with rfl | rfl | rfl
      · exact ⟨_, _, rfl, Nat.le_add_right w.next 6⟩
      · exact ⟨_, _, rfl, Nat.le_add_right w.next (7 + 2)⟩
      · exact ⟨_, _, rfl, Nat.le_add_right w.next (7 + 3 + 3)⟩
    · refine (hconsole logger).trans ?_
      rw [Network.ofTransport_eq]
      exact World.recorded_next _ _ logger

/-! ## Installation -/

variable {capabilities : CapabilitySet} {logger : AuditLogger}

theorem install_of_installable (h : Installation.Installable g capabilities.bindings) :
    install id g capabilities logger w =
      (.ok ⟨id, g.fixAll capabilities.bindings, capabilities.names, logger⟩,
        (((Installation.run g capabilities.bindings).announce logger w).emit
          (.contextCreated id capabilities.names)).audit logger
            (.contextCreated id capabilities.names)) := by
  simp only [install, Installation.run_of_installable h]

theorem install_of_refused {e : CapabilityError}
    (h : Installation.run g capabilities.bindings = ⟨.error e, g, Installation.noticesOf e⟩) :
    install id g capabilities logger w =
      (.error (.capability e),
        (Installation.run g capabilities.bindings).announce logger w) := by
  simp only [install, h]

/-- A context holds its capabilities fixed in the namespace that it was made in. -/
theorem installed_of_install_ok {c : Context}
    (h : (install id g capabilities logger w).1 = .ok c) :
    Installation.Installable g capabilities.bindings ∧
      c.global = g.fixAll capabilities.bindings ∧ c.capabilities = capabilities.names := by
  by_cases hi : Installation.Installable g capabilities.bindings
  · rw [install_of_installable hi] at h
    cases h
    exact ⟨hi, rfl, rfl⟩
  · obtain ⟨e, he⟩ := Installation.run_of_not_installable hi
    rw [install_of_refused he] at h
    cases h

end Context

end CapabilityGateway
