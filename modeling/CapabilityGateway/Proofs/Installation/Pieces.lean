import CapabilityGateway.Proofs.Installation.Plan

/-!
# Installing in one call or in several

An installation looks at the namespace under the names of its own bindings only, and it writes under
these names only. So two installations with no name in common do not get into each other's way:
whether each of them succeeds does not depend on the other, and the one call for both succeeds
exactly when both do. It leaves the same namespace as the two calls one after the other, and has the
same things to tell in the same order. In the other order the new names stand in another order, and
nothing else differs.

* `Installation.Installable.congr`, `Namespace.fixAll_append`: what an installation depends on, and
  what it leaves.
* `Installation.both_succeed_iff`: two calls, each judged by the namespace before the first.
* `Installation.run_in_pieces`: one call, two calls, and two calls in the other order.
-/

namespace CapabilityGateway

/-- Two sets of bindings have no name in common. -/
def Installation.Apart (bs cs : List (String × Value)) : Prop :=
  ∀ name ∈ Dictionary.names bs, name ∉ Dictionary.names cs

namespace Namespace

theorem fixAll_append (g : Namespace) (bs cs : List (String × Value)) :
    g.fixAll (bs ++ cs) = (g.fixAll bs).fixAll cs :=
  List.foldl_append

/-- The order in which bindings without a common name are fixed matters for the order of the names
only. -/
theorem property?_fixAll_comm {bs cs : List (String × Value)} (hbs : (Dictionary.names bs).Nodup)
    (hcs : (Dictionary.names cs).Nodup) (hapart : Installation.Apart bs cs) (g : Namespace)
    (name : String) :
    ((g.fixAll cs).fixAll bs).property? name = ((g.fixAll bs).fixAll cs).property? name := by
  by_cases hb : name ∈ Dictionary.names bs
  · obtain ⟨b, hmem, rfl⟩ := List.mem_map.mp hb
    rw [property?_fixAll_of_mem hbs hmem, property?_fixAll_of_not_mem (hapart b.1 hb),
      property?_fixAll_of_mem hbs hmem]
  · by_cases hc : name ∈ Dictionary.names cs
    · obtain ⟨c, hmem, rfl⟩ := List.mem_map.mp hc
      rw [property?_fixAll_of_not_mem hb, property?_fixAll_of_mem hcs hmem,
        property?_fixAll_of_mem hcs hmem]
    · rw [property?_fixAll_of_not_mem hb, property?_fixAll_of_not_mem hc,
        property?_fixAll_of_not_mem hc, property?_fixAll_of_not_mem hb]

end Namespace

namespace Installation

variable {g h : Namespace} {bs cs : List (String × Value)}

/-! ## What an installation depends on -/

theorem run_eq_ok_iff_installable : (run g bs).result = .ok () ↔ Installable g bs := by
  refine ⟨installable_of_run_ok, fun hi => ?_⟩
  rw [run_of_installable hi]

/-- Only the properties under the names of the bindings count. -/
theorem Installable.congr (hi : Installable g bs)
    (hsame : ∀ name ∈ Dictionary.names bs, h.property? name = g.property? name) :
    Installable h bs where
  nonempty := hi.nonempty
  distinct := hi.distinct
  valid := hi.valid
  free b hb := by
    have hname : b.1 ∈ Dictionary.names bs := List.mem_map.mpr ⟨b, hb, rfl⟩
    rw [Namespace.mayDefine_congr (hsame b.1 hname)]
    exact hi.free b hb

theorem notices_congr (hsame : ∀ name ∈ Dictionary.names bs, h.property? name = g.property? name) :
    (bs.map fun b => (Planned.ofBinding h b).notice) =
      bs.map fun b => (Planned.ofBinding g b).notice := by
  refine List.map_congr_left fun b hb => ?_
  have hname : b.1 ∈ Dictionary.names bs := List.mem_map.mpr ⟨b, hb, rfl⟩
  rw [Planned.ofBinding, Planned.ofBinding, hsame b.1 hname]

/-! ## Bindings without a common name -/

instance (bs cs : List (String × Value)) : Decidable (Apart bs cs) :=
  inferInstanceAs (Decidable (∀ name ∈ Dictionary.names bs, name ∉ Dictionary.names cs))

theorem Apart.symm (hapart : Apart bs cs) : Apart cs bs :=
  fun name hcs hbs => hapart name hbs hcs

theorem Apart.property?_fixAll (hapart : Apart bs cs) (g : Namespace) :
    ∀ name ∈ Dictionary.names cs, (g.fixAll bs).property? name = g.property? name :=
  fun name hcs => Namespace.property?_fixAll_of_not_mem (hapart.symm name hcs) g

theorem installable_append_iff (hbs : bs ≠ []) (hcs : cs ≠ []) (hapart : Apart bs cs) :
    Installable g (bs ++ cs) ↔ Installable g bs ∧ Installable g cs := by
  constructor
  · intro hi
    have hdistinct : (Dictionary.names bs ++ Dictionary.names cs).Nodup := by
      rw [← Dictionary.names_append]
      exact hi.distinct
    obtain ⟨hdistinctBs, hdistinctCs, -⟩ := List.nodup_append.mp hdistinct
    refine ⟨⟨hbs, hdistinctBs, fun b hb => ?_, fun b hb => ?_⟩,
      ⟨hcs, hdistinctCs, fun c hc => ?_, fun c hc => ?_⟩⟩
    · exact hi.valid b (List.mem_append_left cs hb)
    · exact hi.free b (List.mem_append_left cs hb)
    · exact hi.valid c (List.mem_append_right bs hc)
    · exact hi.free c (List.mem_append_right bs hc)
  · rintro ⟨hibs, hics⟩
    refine ⟨by simp [hbs], ?_, fun b hb => ?_, fun b hb => ?_⟩
    · rw [Dictionary.names_append, List.nodup_append]
      refine ⟨hibs.distinct, hics.distinct, fun name hb other hc heq => ?_⟩
      exact hapart name hb (heq ▸ hc)
    · exact (List.mem_append.mp hb).elim (hibs.valid b) (hics.valid b)
    · exact (List.mem_append.mp hb).elim (hibs.free b) (hics.free b)

/-- Whether the second of two installations succeeds can be told before the first. -/
theorem both_succeed_iff (hapart : Apart bs cs) :
    (run g bs).result = .ok () ∧ (run (run g bs).left cs).result = .ok () ↔
      Installable g bs ∧ Installable g cs := by
  rw [run_eq_ok_iff_installable, run_eq_ok_iff_installable]
  refine and_congr_right fun hbs => ?_
  rw [run_of_installable hbs]
  refine ⟨fun hcs => hcs.congr fun name hname => ?_, fun hcs => hcs.congr fun name hname => ?_⟩
  · exact (hapart.property?_fixAll g name hname).symm
  · exact hapart.property?_fixAll g name hname

/-- One call for both leaves what two calls leave, and tells what they tell. -/
theorem run_append (hbs : Installable g bs) (hcs : Installable g cs) (hapart : Apart bs cs) :
    run g (bs ++ cs) =
      ⟨.ok (), (run (run g bs).left cs).left,
        (run g bs).notices ++ (run (run g bs).left cs).notices⟩ := by
  have hsame := hapart.property?_fixAll g
  have hboth : Installable g (bs ++ cs) :=
    (installable_append_iff hbs.nonempty hcs.nonempty hapart).mpr ⟨hbs, hcs⟩
  rw [run_of_installable hboth, run_of_installable hbs, run_of_installable (hcs.congr hsame),
    notices_congr hsame, Namespace.fixAll_append, List.map_append]

theorem announce_of_notices_eq {i j k : Installation} (hk : k.notices = i.notices ++ j.notices)
    (logger : AuditLogger) (w : World) :
    j.announce logger (i.announce logger w) = k.announce logger w := by
  rw [announce, announce, announce, hk, List.foldl_append]

/-- Bindings in two non-empty parts without a common name. One call for all of them succeeds exactly
when two calls do, and then it leaves the same namespace and reports the same, to any logger. The
two calls succeed in one order exactly when they do in the other, and then every name has the same
property after both. -/
theorem run_in_pieces (g : Namespace) (bs cs : List (String × Value)) (hbs : bs ≠ [])
    (hcs : cs ≠ []) (hapart : Apart bs cs) :
    let whole := run g (bs ++ cs)
    let first := run g bs
    let second := run first.left cs
    let first' := run g cs
    let second' := run first'.left bs
    (whole.result = .ok () ↔ first.result = .ok () ∧ second.result = .ok ()) ∧
    (whole.result = .ok () →
      second.left = whole.left ∧
      ∀ logger w, second.announce logger (first.announce logger w) = whole.announce logger w) ∧
    (first.result = .ok () ∧ second.result = .ok () ↔
      first'.result = .ok () ∧ second'.result = .ok ()) ∧
    (first.result = .ok () ∧ second.result = .ok () →
      ∀ name, second'.left.property? name = second.left.property? name) := by
  intro whole first second first' second'
  have hwhole : whole.result = .ok () ↔ Installable g bs ∧ Installable g cs :=
    run_eq_ok_iff_installable.trans (installable_append_iff hbs hcs hapart)
  have hpieces : first.result = .ok () ∧ second.result = .ok () ↔
      Installable g bs ∧ Installable g cs := both_succeed_iff hapart
  have hswapped : first'.result = .ok () ∧ second'.result = .ok () ↔
      Installable g cs ∧ Installable g bs := both_succeed_iff hapart.symm
  refine ⟨hwhole.trans hpieces.symm, fun hok => ?_, ?_, fun hok name => ?_⟩
  · obtain ⟨hibs, hics⟩ := hwhole.mp hok
    have heq : whole = ⟨.ok (), second.left, first.notices ++ second.notices⟩ :=
      run_append hibs hics hapart
    exact ⟨by rw [heq], announce_of_notices_eq (by rw [heq])⟩
  · rw [hpieces, hswapped, and_comm]
  · obtain ⟨hibs, hics⟩ := hpieces.mp hok
    have hsecond : second.left = (g.fixAll bs).fixAll cs := by
      simp only [second, first, run_of_installable hibs,
        run_of_installable (hics.congr (hapart.property?_fixAll g))]
    have hsecond' : second'.left = (g.fixAll cs).fixAll bs := by
      simp only [second', first', run_of_installable hics,
        run_of_installable (hibs.congr (hapart.symm.property?_fixAll g))]
    rw [hsecond, hsecond']
    exact Namespace.property?_fixAll_comm hibs.distinct hics.distinct hapart g name

/-- The namespace has one of the names fixed already, another one replaceable, and two not at all.
The names that are new stand in the order of the calls. -/
theorem run_in_pieces_mixed :
    let g := (Namespace.empty.write "net" (.fixedHidden .null)).write "console"
      ⟨.undefined, .ordinary⟩
    let bs := [("tls", Value.bool true), ("net", .null)]
    let cs := [("print", Value.undefined), ("console", .null)]
    let whole := run g (bs ++ cs)
    let swapped := run (run g cs).left bs
    Apart bs cs ∧ whole.result = .ok () ∧ (run (run g bs).left cs).left = whole.left ∧
      whole.left.names = ["net", "console", "tls", "print"] ∧ swapped.result = .ok () ∧
      swapped.left.names = ["net", "console", "print", "tls"] ∧
      swapped.left.property? "tls" = (run (run g bs).left cs).left.property? "tls" := by
  intro g bs cs whole swapped
  have hapart : Apart bs cs := by decide
  obtain ⟨hwhole, hsame, hswap, hproperties⟩ :=
    run_in_pieces g bs cs (by simp [bs]) (by simp [cs]) hapart
  have hok : whole.result = .ok () := rfl
  have hpieces := hwhole.mp hok
  exact ⟨hapart, hok, (hsame hok).1, rfl, (hswap.mp hpieces).2, rfl, hproperties hpieces "tls"⟩

end Installation

end CapabilityGateway
