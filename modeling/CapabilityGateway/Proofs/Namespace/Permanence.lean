import CapabilityGateway.Proofs.Namespace.History
import CapabilityGateway.Proofs.Sandbox.Assembly

/-!
# Fixed names are permanent

Whatever is done to a namespace, a name that is not configurable stays with its attributes, and with
its value if it is not writable. So a capability can be reached under its name, as the value that
was installed, for as long as the namespace lives, and it is never listed.

* `Namespace.fixed_names_permanent`: the statement for all three ways in which a name gets fixed.
-/

namespace CapabilityGateway

/-- The name resolves to the value, up to sameness, and is not listed. -/
def Namespace.Exposes (g : Namespace) (name : String) (v : Value) : Prop :=
  (∃ u, g.resolve name = .ok u ∧ u.same v = true) ∧ name ∉ g.keys

/-- The context came from one of the constructors: with a capability set that the host put together,
or with one that was made for its options. -/
inductive Context.Built : Context → Prop where
  | withCapabilities {id : String} {g : Namespace} {capabilities : CapabilitySet}
      {logger : AuditLogger} {w : World} {c : Context}
      (h : (Context.install id g capabilities logger w).1 = .ok c) : Built c
  | withOptions {id : String} {g : Namespace} {options : ContextOptions} {host : HostServices}
      {w : World} {c : Context} (h : (Context.create id g options host w).1 = .ok c) : Built c

/-- Every constructor ends with the installation of some capabilities. -/
theorem Context.Built.installed {c : Context} (h : c.Built) :
    ∃ g capabilities, Installation.Installable g (CapabilitySet.bindings capabilities) ∧
      c.global = g.fixAll capabilities.bindings ∧ c.capabilities = capabilities.names := by
  cases h with
  | @withCapabilities id g capabilities logger w _ h =>
    exact ⟨g, capabilities, installed_of_install_ok h⟩
  | @withOptions id g options host w _ h =>
    cases hmode : sinkMode? options host with
    | none =>
      rw [create_of_no_bridge hmode] at h
      cases h
    | some mode =>
      by_cases ht : options.network = true ∧ host.transport = none
      · rw [create_of_no_transport hmode ht.1 ht.2] at h
        cases h
      · obtain ⟨capabilities, w', -, heq⟩ :=
          @create_eq_install id g options host w mode hmode fun hn hnone => ht ⟨hn, hnone⟩
        rw [heq] at h
        exact ⟨g, capabilities, installed_of_install_ok h⟩

namespace Namespace

/-- A fixed and hidden name stays exposed. -/
theorem exposes_after {g : Namespace} {name : String} {v : Value}
    (h : g.property? name = some (.fixedHidden v)) (changes : List Change) :
    (g.after changes).Exposes name v := by
  obtain ⟨q, hq, hpersists⟩ := fixedPersist_after g changes name _ h rfl
  refine ⟨⟨q.value, resolve_of_property? hq, hpersists.value rfl⟩, fun hkey => ?_⟩
  obtain ⟨r, hr, henumerable⟩ := mem_keys_iff.mp hkey
  cases hq.symm.trans hr
  rw [hpersists.attributes] at henumerable
  cases henumerable

/-- However a namespace came about and whatever happens to it, each name that is fixed in it stays,
with its attributes and, if it is not writable, with its value. In particular every capability
stays exposed, installed by itself or by the constructor of a context. -/
theorem fixed_names_permanent (g : Namespace) (changes : List Change) :
    (∀ name p, g.property? name = some p → p.attributes.configurable = false →
      ∃ q, (g.after changes).property? name = some q ∧ q.attributes = p.attributes ∧
        (p.attributes.writable = false → q.value.same p.value = true)) ∧
    (∀ bindings, (Installation.run g bindings).result = .ok () → ∀ b ∈ bindings,
      ((Installation.run g bindings).left.after changes).Exposes b.1 b.2) ∧
    ∀ c : Context, c.Built → ∀ name ∈ c.capabilities,
      ∃ v, c.global.resolve name = .ok v ∧ (c.global.after changes).Exposes name v := by
  refine ⟨fun name p hp hfixed => ?_, fun bindings hok b hb => ?_, fun c hc name hname => ?_⟩
  · obtain ⟨q, hq, hpersists⟩ := fixedPersist_after g changes name p hp hfixed
    exact ⟨q, hq, hpersists.attributes, hpersists.value⟩
  · have hi := Installation.installable_of_run_ok hok
    rw [Installation.run_of_installable hi]
    exact exposes_after (property?_fixAll_of_mem hi.distinct hb g) changes
  · obtain ⟨g₀, capabilities, hi, hglobal, hnames⟩ := hc.installed
    rw [hnames] at hname
    obtain ⟨b, hb, rfl⟩ := List.mem_map.mp hname
    have hbound := property?_fixAll_of_mem hi.distinct hb g₀
    rw [hglobal]
    exact ⟨b.2, resolve_of_property? hbound, exposes_after hbound changes⟩

/-- A name that is assigned to, removed, redefined and installed over. -/
theorem fixed_names_permanent_attacked :
    let attack := [Change.edit (.set "net" (.bool true)), .edit (.delete "net"),
      .edit (.define "net" ⟨.null, .ordinary⟩), .install [("net", .bool true)],
      .install [("net", .null)], .edit (.delete "console")]
    (∃ q, ((empty.write "net" (.fixedHidden .null)).after attack).property? "net" = some q ∧
      q.attributes = .fixedHidden ∧ q.value.same .null = true) ∧
    ((Installation.run empty [("net", .null)]).left.after attack).Exposes "net" .null ∧
    ∃ c v, (Context.sandboxed "c" (.initial ⟨0, 0⟩ fun _ => HostCall.plainAnswer)).1 = .ok c ∧
      (c.global.after attack).Exposes "console" v := by
  intro attack
  obtain ⟨hfixed, -, -⟩ := fixed_names_permanent (empty.write "net" (.fixedHidden .null)) attack
  obtain ⟨-, hinstalled, hcontext⟩ := fixed_names_permanent empty attack
  obtain ⟨q, hq, hattributes, hvalue⟩ := hfixed "net" _ rfl rfl
  refine ⟨⟨q, hq, hattributes, hvalue rfl⟩, ?_, ?_⟩
  · exact hinstalled [("net", .null)] rfl ("net", .null) List.mem_cons_self
  · obtain ⟨c, hc, hnames⟩ :
        ∃ c, (Context.sandboxed "c" (.initial ⟨0, 0⟩ fun _ => HostCall.plainAnswer)).1 = .ok c ∧
          c.capabilities = ["console"] := ⟨_, rfl, rfl⟩
    obtain ⟨v, -, hv⟩ := hcontext c (.withOptions hc) "console" (by simp [hnames])
    exact ⟨c, v, hc, hv⟩

end Namespace

end CapabilityGateway
