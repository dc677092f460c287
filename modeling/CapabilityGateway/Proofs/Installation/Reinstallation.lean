import CapabilityGateway.Proofs.Audit.Recording
import CapabilityGateway.Proofs.Namespace.History

/-!
# Installing again

Capabilities that were installed once are held by the namespace from then on, whatever else happens
to it. Installing the same bindings later therefore finds each of them present. It writes every
property once more as what it is, up to the sameness of its value, and has nothing to tell the
audit.

* `Namespace.Holds`: the namespace holds some bindings already.
* `Namespace.Indistinguishable`: two namespaces agree in everything that can be observed of them.
* `Installation.reinstall_unobservable`: installing again, after any history.
-/

namespace CapabilityGateway

namespace Namespace

/-- Each of the bindings is there already, fixed and hidden, with a value that is the same. -/
def Holds (g : Namespace) (bindings : List (String × Value)) : Prop :=
  ∀ b ∈ bindings, ∃ p, g.property? b.1 = some p ∧ p.identical (.fixedHidden b.2) = true

/-- The names stand in the same order, and each is bound to an identical property. -/
structure Indistinguishable (g h : Namespace) : Prop where
  names : h.names = g.names
  properties : ∀ name p, g.property? name = some p →
    ∃ q, h.property? name = some q ∧ p.identical q = true

variable {g h : Namespace} {bs : List (String × Value)}

theorem holds_fixAll (hdistinct : (Dictionary.names bs).Nodup) (g : Namespace) :
    (g.fixAll bs).Holds bs := by
  intro b hb
  exact ⟨_, property?_fixAll_of_mem hdistinct hb g, Property.identical_refl _⟩

/-- Held bindings are fixed, and what is fixed persists. -/
theorem Holds.persist (hg : g.Holds bs) (hgh : g.FixedPersist h) : h.Holds bs := by
  intro b hb
  obtain ⟨p, hp, hidentical⟩ := hg b hb
  obtain ⟨hattributes, hvalue⟩ := Property.identical_iff.mp hidentical
  have hfixed : p.attributes.configurable = false := by rw [hattributes]; rfl
  have hreadOnly : p.attributes.writable = false := by rw [hattributes]; rfl
  obtain ⟨q, hq, hpersists⟩ := hgh b.1 p hp hfixed
  refine ⟨q, hq, Property.identical_iff.mpr ⟨hpersists.attributes.trans hattributes, ?_⟩⟩
  exact Value.same_trans (hpersists.value hreadOnly) hvalue

theorem mem_names_of_property? {name : String} {p : Property} (hp : g.property? name = some p) :
    name ∈ g.names :=
  Dictionary.mem_names_of_get? hp

theorem Holds.names_subset (hg : g.Holds bs) : ∀ name ∈ Dictionary.names bs, name ∈ g.names := by
  intro name hname
  obtain ⟨b, hb, rfl⟩ := List.mem_map.mp hname
  obtain ⟨p, hp, -⟩ := hg b hb
  exact mem_names_of_property? hp

theorem Holds.indistinguishable (hg : g.Holds bs) (hdistinct : (Dictionary.names bs).Nodup) :
    g.Indistinguishable (g.fixAll bs) where
  names := by
    have hnone : (Dictionary.names bs).filter (· ∉ g.names) = [] := by
      rw [List.filter_eq_nil_iff]
      intro name hname
      simpa using hg.names_subset name hname
    rw [names_fixAll hdistinct, hnone, List.append_nil]
  properties := by
    intro name p hp
    by_cases hname : name ∈ Dictionary.names bs
    · obtain ⟨b, hb, rfl⟩ := List.mem_map.mp hname
      obtain ⟨q, hq, hidentical⟩ := hg b hb
      cases hp.symm.trans hq
      exact ⟨_, property?_fixAll_of_mem hdistinct hb g, hidentical⟩
    · exact ⟨p, (property?_fixAll_of_not_mem hname g).trans hp, p.identical_refl⟩

end Namespace

namespace Installation

variable {g h : Namespace} {bs : List (String × Value)}

/-- Whether bindings can be installed depends on the namespace only in that nothing else may be
fixed under their names. -/
theorem Installable.of_holds (hi : Installable g bs) (hh : h.Holds bs) : Installable h bs where
  nonempty := hi.nonempty
  distinct := hi.distinct
  valid := hi.valid
  free b hb := by
    obtain ⟨p, hp, hidentical⟩ := hh b hb
    rw [Namespace.mayDefine_iff]
    intro q hq
    cases hp.symm.trans hq
    exact Or.inr hidentical

theorem notices_of_holds (hh : h.Holds bs) :
    (bs.map fun b => (Planned.ofBinding h b).notice) =
      (Dictionary.names bs).map Notice.present := by
  rw [Dictionary.names, List.map_map]
  refine List.map_congr_left fun b hb => ?_
  obtain ⟨p, hp, hidentical⟩ := hh b hb
  simp [Planned.notice, Planned.ofBinding, hp, hidentical]

theorem events_present (names : List String) :
    (names.map Notice.present).filterMap Notice.event? = [] := by
  rw [List.filterMap_map, List.filterMap_eq_nil_iff]
  intro name _
  rfl

/-- Bindings that were installed once can be installed again after any history. That succeeds, tells
the audit nothing, and leaves a namespace that cannot be told from the one before. -/
theorem reinstall_unobservable (g : Namespace) (bindings : List (String × Value))
    (hok : (run g bindings).result = .ok ()) (changes : List Namespace.Change)
    (logger : AuditLogger) (w : World) :
    let later := (run g bindings).left.after changes
    let again := run later bindings
    again.result = .ok () ∧ w.Recorded (again.announce logger w) logger [] ∧
      later.Indistinguishable again.left := by
  intro later again
  have hi : Installable g bindings := installable_of_run_ok hok
  have hfirst : (run g bindings).left.Holds bindings := by
    rw [run_of_installable hi]
    exact Namespace.holds_fixAll hi.distinct g
  have hholds : later.Holds bindings := hfirst.persist (Namespace.fixedPersist_after _ changes)
  have hagain : again = ⟨.ok (), later.fixAll bindings, _⟩ :=
    run_of_installable (hi.of_holds hholds)
  have hrecorded := recorded_announce again logger w
  rw [hagain] at hrecorded ⊢
  rw [notices_of_holds hholds, events_present] at hrecorded
  rw [notices_of_holds hholds]
  exact ⟨rfl, hrecorded, hholds.indistinguishable hi.distinct⟩

/-- NaN, negative zero and an array, with attempts in between to remove the first, to assign to the
second and to install another array over the third. -/
theorem reinstall_unobservable_attacked :
    let bindings := [("net", Value.number .nan), ("tls", .number (.ofMagnitude true 0)),
      ("list", .array 7 [.null])]
    let attack := [Namespace.Change.edit (.delete "net"),
      .edit (.set "tls" (.number (.ofMagnitude false 0))),
      .install [("list", .array 8 [.null])], .edit (.set "print" .null)]
    let w := World.initial ⟨0, 0⟩ fun _ => HostCall.plainAnswer
    let later := (run .empty bindings).left.after attack
    let again := run later bindings
    again.result = .ok () ∧ (again.announce (.keeping 0) w).heard (.keeping 0) = [] ∧
      again.left.names = ["net", "tls", "list", "print"] := by
  intro bindings attack w later again
  obtain ⟨hok, hrecorded, hsame⟩ :=
    reinstall_unobservable .empty bindings rfl attack (.keeping 0) w
  exact ⟨hok, hrecorded (.keeping 0) (by decide), hsame.names⟩

end Installation

end CapabilityGateway
