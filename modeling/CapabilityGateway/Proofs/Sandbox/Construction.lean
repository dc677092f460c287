import CapabilityGateway.Proofs.Namespace.Freshness
import CapabilityGateway.Proofs.Sandbox.Assembly
import Mathlib.Data.List.Find

/-!
# What the construction of a context comes to

`Context.refusal?` says from the options, the host and the engine's namespace alone whether there
will be a context, and if not, why. The capabilities of a context are new objects, so no namespace
can hold them already: a name that the engine has fixed is a collision, whatever it is fixed to, and
every capability of a new context is reported as installed.

* `Context.create_outcome`: creation ends as `Context.refusal?` says, and what it records.
-/

namespace CapabilityGateway

namespace ContextOptions

theorem requested_valid (options : ContextOptions) :
    ∀ name ∈ options.requested, CapabilityName.isValid name = true := by
  unfold requested
  cases options.network <;> decide

theorem requested_nodup (options : ContextOptions) : options.requested.Nodup := by
  unfold requested
  cases options.network <;> decide

theorem requested_ne_nil (options : ContextOptions) : options.requested ≠ [] := by
  unfold requested
  cases options.network <;> decide

end ContextOptions

namespace Context

/-- Why there will be no context, with the reasons in the order in which they count. -/
def refusal? (g : Namespace) (options : ContextOptions) (host : HostServices) :
    Option ContextError :=
  if options.console = .forward ∧ host.bridge = none then some .bridgeRequired
  else if options.network = true ∧ host.transport = none then some .transportRequired
  else (options.requested.find? g.isFixed).map fun name => .capability (.collision name)

/-- What the audit learns of a refusal. -/
def refusalEvents : ContextError → List AuditEvent
  | .capability (.collision name) => [.capabilityCollision name]
  | _ => []

/-! ## Installing new capabilities -/

variable {id : String} {g : Namespace} {options : ContextOptions} {host : HostServices}
  {w w' : World} {capabilities : CapabilitySet}

theorem Wired.names_bindings (h : Wired options w capabilities w') :
    Dictionary.names capabilities.bindings = options.requested := h.names

theorem Wired.mayDefine_eq (h : Wired options w capabilities w') (hg : g.KnownTo w)
    {b : String × Value} (hb : b ∈ capabilities.bindings) :
    g.mayDefine b.1 (.fixedHidden b.2) = !g.isFixed b.1 := by
  obtain ⟨i, properties, hv, hi⟩ := h.fresh b hb
  rw [hv]
  exact hg.mayDefine_eq hi b.1

theorem Wired.valid (h : Wired options w capabilities w') :
    ∀ b ∈ capabilities.bindings, CapabilityName.isValid b.1 = true := by
  intro b hb
  refine options.requested_valid b.1 ?_
  rw [← h.names_bindings]
  exact List.mem_map.mpr ⟨b, hb, rfl⟩

theorem Wired.nonempty (h : Wired options w capabilities w') : capabilities.bindings ≠ [] := by
  intro hnil
  refine options.requested_ne_nil ?_
  rw [← h.names_bindings, hnil]
  rfl

/-- The first binding that cannot be planned is the one of the first name that is fixed. -/
theorem Wired.find?_fixed (h : Wired options w capabilities w') (hg : g.KnownTo w) :
    options.requested.find? g.isFixed =
      (capabilities.bindings.find? fun b => !g.mayDefine b.1 (.fixedHidden b.2)).map
        Prod.fst := by
  rw [← h.names_bindings, Dictionary.names, List.find?_map]
  congr 1
  refine List.find?_congr fun b hb => ?_
  rw [h.mayDefine_eq hg hb, Bool.not_not]
  rfl

theorem Wired.run_of_fixed (h : Wired options w capabilities w') (hg : g.KnownTo w)
    {name : String} (hname : options.requested.find? g.isFixed = some name) :
    Installation.run g capabilities.bindings =
      ⟨.error (.collision name), g, [.collided name]⟩ := by
  rw [h.find?_fixed hg, Option.map_eq_some_iff] at hname
  obtain ⟨b, hb, rfl⟩ := hname
  have hnodup : (Dictionary.names capabilities.bindings).Nodup :=
    h.names_bindings ▸ options.requested_nodup
  refine Installation.run_of_plan_error h.nonempty ?_
  rw [Installation.plan_eq_first_collision h.valid hnodup (by simp), hb]

theorem Wired.installable (h : Wired options w capabilities w') (hg : g.KnownTo w)
    (hnone : options.requested.find? g.isFixed = none) :
    Installation.Installable g capabilities.bindings where
  nonempty := h.nonempty
  distinct := h.names_bindings ▸ options.requested_nodup
  valid := h.valid
  free b hb := by
    have hmem : b.1 ∈ options.requested := by
      rw [← h.names_bindings]
      exact List.mem_map.mpr ⟨b, hb, rfl⟩
    rw [h.mayDefine_eq hg hb, Bool.not_eq_true']
    simpa using List.find?_eq_none.mp hnone b.1 hmem

/-- None of the capabilities was there before, so all of them are reported as installed. -/
theorem Wired.notices (h : Wired options w capabilities w') (hg : g.KnownTo w) :
    (capabilities.bindings.map fun b => (Installation.Planned.ofBinding g b).notice) =
      options.requested.map .installed := by
  rw [← h.names_bindings, Dictionary.names, List.map_map]
  refine List.map_congr_left fun b hb => ?_
  obtain ⟨i, properties, hv, hi⟩ := h.fresh b hb
  have habsent : (g.property? b.1).any (·.identical (.fixedHidden b.2)) = false := by
    cases hp : g.property? b.1 with
    | none => rfl
    | some p =>
      rw [Option.any_some, hv]
      exact hg.not_identical hi hp
  simp [Installation.Planned.notice, Installation.Planned.ofBinding, habsent]

theorem events_installed (names : List String) :
    (names.map .installed).filterMap Installation.Notice.event? =
      names.map .capabilityInstalled := by
  rw [List.filterMap_map, ← List.filterMap_eq_map]
  rfl

theorem Wired.recorded_installed (h : Wired options w capabilities w') (hg : g.KnownTo w)
    (hi : Installation.Installable g capabilities.bindings) (logger : AuditLogger) :
    w.Recorded ((Installation.run g capabilities.bindings).announce logger w') logger
      (options.requested.map .capabilityInstalled) := by
  have hrun := Installation.recorded_announce (Installation.run g capabilities.bindings) logger w'
  rw [show (Installation.run g capabilities.bindings).notices = _ from
    congrArg Installation.notices (Installation.run_of_installable hi), h.notices hg,
    events_installed] at hrun
  exact (h.unrecorded logger).trans hrun

/-! ## The outcome -/

/-- What there is when a context was made: a context that holds the requested names fixed and hidden
behind the other names of the namespace, and a world whose audit has heard of exactly that. -/
structure Established (id : String) (g : Namespace) (options : ContextOptions)
    (host : HostServices) (w : World) (c : Context) (w' : World) : Prop where
  identified : c.id = id
  capabilities : c.capabilities = options.requested
  bound : ∀ name ∈ options.requested, ∃ v, c.global.property? name = some (.fixedHidden v)
  others : ∀ name, name ∉ options.requested → c.global.property? name = g.property? name
  names : c.global.names = g.names ++ options.requested.filter (· ∉ g.names)
  recorded : w.Recorded w' (loggerFor options host)
    (options.requested.map .capabilityInstalled ++ [.contextCreated id options.requested])

theorem Wired.established (h : Wired options w capabilities w') (hg : g.KnownTo w)
    (hnone : options.requested.find? g.isFixed = none) :
    ∃ c w'', install id g capabilities (loggerFor options host) w' = (.ok c, w'') ∧
      Established id g options host w c w'' := by
  have hi := h.installable hg hnone
  refine ⟨_, _, install_of_installable hi, rfl, h.names, ?_, ?_, ?_, ?_⟩
  · intro name hname
    rw [← h.names_bindings] at hname
    obtain ⟨b, hb, rfl⟩ := List.mem_map.mp hname
    exact ⟨b.2, Namespace.property?_fixAll_of_mem hi.distinct hb g⟩
  · intro name hname
    rw [← h.names_bindings] at hname
    exact Namespace.property?_fixAll_of_not_mem hname g
  · rw [← h.names_bindings]
    exact Namespace.names_fixAll hi.distinct g
  · rw [h.names]
    exact (h.recorded_installed hg hi _).trans (World.recorded_emit_audit _ rfl _ _)

theorem Wired.refused (h : Wired options w capabilities w') (hg : g.KnownTo w) {name : String}
    (hname : options.requested.find? g.isFixed = some name) :
    ∃ w'', install id g capabilities (loggerFor options host) w' =
        (.error (.capability (.collision name)), w'') ∧
      w.Recorded w'' (loggerFor options host) [.capabilityCollision name] := by
  have hrun := h.run_of_fixed hg hname
  refine ⟨_, install_of_refused hrun, ?_⟩
  have hrecorded := Installation.recorded_announce (Installation.run g capabilities.bindings)
    (loggerFor options host) w'
  rw [hrun] at hrecorded ⊢
  exact (h.unrecorded _).trans hrecorded

/-- Creation refuses exactly as `refusal?` says, and then records a collision if that is the reason
and nothing else. Otherwise there is a context. The engine's namespace holds only what was made
before, which `Namespace.knownTo_after` shows of every namespace with such a history. -/
theorem create_outcome (id : String) (g : Namespace) (options : ContextOptions)
    (host : HostServices) (w : World) (hg : g.KnownTo w) :
    match refusal? g options host with
    | some e => ∃ w', create id g options host w = (.error e, w') ∧
        w.Recorded w' (loggerFor options host) (refusalEvents e)
    | none => ∃ c w', create id g options host w = (.ok c, w') ∧
        Established id g options host w c w' := by
  unfold refusal?
  cases hmode : sinkMode? options host with
  | none =>
    rw [if_pos (sinkMode?_eq_none_iff.mp hmode)]
    exact ⟨w, create_of_no_bridge hmode, .refl w _⟩
  | some mode =>
    have hbridge : ¬ (options.console = .forward ∧ host.bridge = none) := by
      rw [← sinkMode?_eq_none_iff, hmode]
      simp
    rw [if_neg hbridge]
    by_cases ht : options.network = true ∧ host.transport = none
    · rw [if_pos ht]
      exact ⟨_, create_of_no_transport hmode ht.1 ht.2, recorded_create_console _ w _⟩
    · rw [if_neg ht]
      obtain ⟨capabilities, w', hwired, heq⟩ :=
        @create_eq_install id g options host w mode hmode fun hn hnone => ht ⟨hn, hnone⟩
      rw [heq]
      cases hfind : options.requested.find? g.isFixed with
      | some name => exact hwired.refused hg hfind
      | none => exact hwired.established hg hfind

/-- An engine that has fixed two of the names refuses at the first of them, and one that has merely
bound a name gets a context. -/
theorem create_outcome_engine :
    let w := World.initial ⟨0, 0⟩ fun _ => HostCall.plainAnswer
    let fixed := Namespace.empty.after [.edit (.define "tls" (.fixedHidden .null)),
      .edit (.define "net" ⟨.bool true, ⟨true, true, false⟩⟩)]
    let bound := Namespace.empty.after [.edit (.set "console" .undefined)]
    let host : HostServices := ⟨none, some 0, some (.keeping 0)⟩
    (∃ w', create "c" fixed ⟨.discard, true, true⟩ host w =
        (.error (.capability (.collision "net")), w') ∧
      w'.heard (.keeping 0) = [.capabilityCollision "net"]) ∧
    ∃ c w', create "c" bound ⟨.discard, true, true⟩ host w = (.ok c, w') ∧
      c.global.names = ["console", "net", "tls"] := by
  intro w fixed bound host
  have hfixed : fixed.KnownTo w := by
    refine Namespace.knownTo_after (Namespace.knownTo_empty w) fun c hc => ?_
    simp only [List.mem_cons, List.not_mem_nil, or_false] at hc
    rcases hc with rfl | rfl
    · rintro v ⟨⟩
      exact Value.knownTo_of_plain rfl w
    · rintro v ⟨⟩
      exact Value.knownTo_of_plain rfl w
  have hbound : bound.KnownTo w := by
    refine Namespace.knownTo_after (Namespace.knownTo_empty w) fun c hc => ?_
    rw [List.mem_singleton.mp hc]
    rintro v ⟨⟩
    exact Value.knownTo_of_plain rfl w
  obtain ⟨w', hw', hrecorded⟩ := create_outcome "c" fixed ⟨.discard, true, true⟩ host w hfixed
  obtain ⟨c, w'', hc, hestablished⟩ := create_outcome "c" bound ⟨.discard, true, true⟩ host w hbound
  refine ⟨⟨w', hw', ?_⟩, c, w'', hc, hestablished.names.trans (by decide)⟩
  exact hrecorded (.keeping 0) (by decide)

end Context

end CapabilityGateway
