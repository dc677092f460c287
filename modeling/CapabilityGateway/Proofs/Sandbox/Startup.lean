import CapabilityGateway.Proofs.Console.Run
import CapabilityGateway.Proofs.Sandbox.Construction
import CapabilityGateway.Proofs.Settings.Precedence

/-!
# Contexts from settings

From the files and the environment to a context: the settings for a directory are loaded, they ask
for options, and a context is made with these. A host that offers a bridge and a transport has a
context for all settings, and its capabilities and its console are what the settings say.

* `Loader.contextFor`: the whole way.
* `Context.exists_equipped`: what the host makes of options.
* `Loader.contextFor_of_load`: what the context of some settings is.
-/

namespace CapabilityGateway

/-- Why there is no context for a directory. -/
inductive StartError where
  | settings (e : SettingsError)
  | context (e : ContextError)

/-- The context that the settings for a directory ask for. -/
def Loader.contextFor (loader : Loader) (files : FileTree) (env : Environment) (start : Path)
    (host : HostServices) (id : String) (w : World) : Except StartError Context :=
  match (loader.loadDirectory files env start).1 with
  | .error e => .error (.settings e)
  | .ok s =>
    match (Context.create id .empty (.ofSettings s) host w).1 with
    | .error e => .error (.context e)
    | .ok c => .ok c

/-! ## Consoles of contexts -/

namespace Context

/-- Every method of the console that the guest has writes to the sink. -/
def WritesTo (c : Context) (sink : Sink) : Prop :=
  ∃ console, c.global.get? "console" = some console ∧
    ∀ method ∈ Console.methods, ∃ i, console.member? method = some (.function (.mk i (.write sink)))

/-- The console of the context forwards to the bridge. -/
def ForwardsTo (c : Context) (bridge : Identity) : Prop :=
  ∃ logger, c.WritesTo ⟨.forward bridge, logger⟩

theorem WritesTo.unique {c : Context} {sink sink' : Sink} (h : c.WritesTo sink)
    (h' : c.WritesTo sink') : sink = sink' := by
  obtain ⟨console, hconsole, hmethods⟩ := h
  obtain ⟨console', hconsole', hmethods'⟩ := h'
  obtain rfl : console = console' := Option.some.inj (hconsole.symm.trans hconsole')
  obtain ⟨i, hi⟩ := hmethods "log" List.mem_cons_self
  obtain ⟨j, hj⟩ := hmethods' "log" List.mem_cons_self
  cases hi.symm.trans hj
  rfl

/-! ## Hosts that offer everything -/

/-- The sink mode for a console mode, when there is a bridge. -/
def sinkMode (bridge : Identity) : ConsoleMode → SinkMode
  | .discard => .discard
  | .forward => .forward bridge

/-- The context was made for the options by a host with the bridge and with a transport. -/
structure Equipped (c : Context) (options : ContextOptions) (bridge : Identity) : Prop where
  capabilities : c.capabilities = options.requested
  names : c.global.names = options.requested
  console : ∃ logger, c.WritesTo ⟨sinkMode bridge options.console, logger⟩

theorem create_eq_install_console {id : String} {g : Namespace} {options : ContextOptions}
    {host : HostServices} {w : World} {mode : SinkMode} (hmode : sinkMode? options host = some mode)
    (htransport : options.network = true → host.transport ≠ none) :
    ∃ network w', create id g options host w =
      install id g ⟨(Console.create ⟨mode, loggerFor options host⟩ w).1, network⟩
        (loggerFor options host) w' := by
  cases hnetwork : options.network with
  | false => exact ⟨none, _, by simp only [create, hmode, hnetwork]; rfl⟩
  | true =>
    obtain ⟨transport, ht⟩ := Option.ne_none_iff_exists'.mp (htransport hnetwork)
    exact ⟨some _, _, by simp only [create, hmode, hnetwork, ht, if_true]; rfl⟩

theorem exists_equipped (id : String) (options : ContextOptions) (bridge transport : Identity)
    (logger : Option AuditLogger) (w : World) :
    ∃ c, (create id .empty options ⟨some bridge, some transport, logger⟩ w).1 = .ok c ∧
      c.Equipped options bridge := by
  let host : HostServices := ⟨some bridge, some transport, logger⟩
  have hmode : sinkMode? options host = some (sinkMode bridge options.console) := by
    unfold sinkMode?
    cases options.console <;> rfl
  have htransport : options.network = true → host.transport ≠ none :=
    fun _ => Option.some_ne_none transport
  obtain ⟨capabilities, w', hwired, hcreate⟩ :=
    @create_eq_install id .empty options host w _ hmode htransport
  have hfree : options.requested.find? Namespace.empty.isFixed = none :=
    List.find?_eq_none.mpr fun name _ => by simp [Namespace.isFixed, Namespace.property?_empty]
  obtain ⟨c, w'', hinstall, hestablished⟩ :=
    hwired.established (Namespace.knownTo_empty w) hfree
  have hmade : (create id .empty options host w).1 = .ok c := by rw [hcreate, hinstall]
  refine ⟨c, hmade, hestablished.capabilities, ?_, loggerFor options host, ?_⟩
  · rw [hestablished.names]
    simp [Namespace.names, Namespace.empty, Dictionary.names]
  · obtain ⟨network, w₁, hconsole⟩ :=
      @create_eq_install_console id .empty options host w _ hmode htransport
    rw [hconsole] at hmade
    obtain ⟨hinstallable, hglobal, -⟩ := installed_of_install_ok hmade
    have hbound := Namespace.property?_fixAll_of_mem hinstallable.distinct
      List.mem_cons_self Namespace.empty
    rw [← hglobal] at hbound
    refine ⟨_, congrArg (Option.map Property.value) hbound, fun method hmethod => ?_⟩
    exact Console.member?_create _ w hmethod

theorem Equipped.forwardsTo_iff {c : Context} {options : ContextOptions} {bridge : Identity}
    (h : c.Equipped options bridge) : c.ForwardsTo bridge ↔ options.console = .forward := by
  obtain ⟨logger, hwrites⟩ := h.console
  constructor
  · rintro ⟨logger', hforwards⟩
    have hsink := congrArg Sink.mode (hwrites.unique hforwards)
    cases hconsole : options.console with
    | discard =>
      rw [hconsole] at hsink
      cases hsink
    | forward => rfl
  · intro hconsole
    rw [hconsole] at hwrites
    exact ⟨logger, hwrites⟩

theorem Equipped.has_iff {c : Context} {options : ContextOptions} {bridge : Identity}
    (h : c.Equipped options bridge) (name : String) :
    c.global.has name = true ↔ name ∈ options.requested := by
  rw [← h.names, Namespace.mem_names_iff]
  exact Iff.rfl

end Context

theorem ContextOptions.net_mem_requested {options : ContextOptions} :
    "net" ∈ options.requested ↔ options.network = true := by
  unfold requested
  cases options.network <;> decide

theorem ContextOptions.tls_mem_requested {options : ContextOptions} :
    "tls" ∈ options.requested ↔ options.network = true := by
  unfold requested
  cases options.network <;> decide

/-! ## Contexts for settings -/

namespace Loader

variable {loader : Loader} {files : FileTree} {env : Environment} {start : Path} {s : Settings}
  {bridge transport : Identity} {logger : Option AuditLogger}

/-- A host that offers everything has a context for all settings. -/
theorem contextFor_of_load (h : (loader.loadDirectory files env start).1 = .ok s)
    (bridge transport : Identity) (logger : Option AuditLogger) (id : String) (w : World) :
    ∃ c, loader.contextFor files env start ⟨some bridge, some transport, logger⟩ id w = .ok c ∧
      c.Equipped (.ofSettings s) bridge := by
  obtain ⟨c, hc, hequipped⟩ :=
    Context.exists_equipped id (.ofSettings s) bridge transport logger w
  refine ⟨c, ?_, hequipped⟩
  simp only [contextFor, h, hc]

/-- A context comes from settings. -/
theorem load_of_contextFor {id : String} {w : World} {c : Context}
    (h : loader.contextFor files env start ⟨some bridge, some transport, logger⟩ id w = .ok c) :
    ∃ s, (loader.loadDirectory files env start).1 = .ok s ∧
      c.Equipped (.ofSettings s) bridge := by
  cases hload : (loader.loadDirectory files env start).1 with
  | error e => simp [contextFor, hload] at h
  | ok s =>
    obtain ⟨c', hc', hequipped⟩ := contextFor_of_load hload bridge transport logger id w
    obtain rfl : c' = c := Except.ok.inj (hc'.symm.trans h)
    exact ⟨s, rfl, hequipped⟩

end Loader

end CapabilityGateway
