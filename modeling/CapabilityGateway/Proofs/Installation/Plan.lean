import CapabilityGateway.Capability.Install
import CapabilityGateway.Proofs.Namespace.Lookup

/-!
# Plans and their execution

An installation is planned against the namespace as it is before the first write, and the writes
then change it. Writing a binding touches no other name, and the names of a plan are distinct, so
what the examination found still holds when its turn comes: no write of a plan fails.

* `Installation.plan_eq_ok_iff`: which bindings can be planned, and what the plan is.
* `Installation.plan_eq_first_collision`: with names that are valid and distinct, only a collision
  can speak against a plan, and the first one does.
* `Installation.write_planned`: the writes of a plan succeed and leave `Namespace.fixAll`.
* `Installation.run_of_installable`, `Installation.run_of_not_installable`: a whole installation.
-/

namespace CapabilityGateway

/-! ## Fixing names -/

/-- The namespace with some names bound and fixed, one after another. -/
def Namespace.fixAll (g : Namespace) (bindings : List (String × Value)) : Namespace :=
  bindings.foldl (fun g b => g.write b.1 (.fixedHidden b.2)) g

namespace Namespace

theorem fixAll_cons (g : Namespace) (b : String × Value) (bs : List (String × Value)) :
    g.fixAll (b :: bs) = (g.write b.1 (.fixedHidden b.2)).fixAll bs := rfl

theorem entries_fixAll (g : Namespace) (bs : List (String × Value)) :
    (g.fixAll bs).entries =
      Dictionary.putAll g.entries (bs.map fun b => (b.1, Property.fixedHidden b.2)) := by
  induction bs generalizing g with
  | nil => rfl
  | cons b rest ih => exact ih _

theorem names_fixed (bs : List (String × Value)) :
    Dictionary.names (bs.map fun b => (b.1, Property.fixedHidden b.2)) = Dictionary.names bs := by
  simp [Dictionary.names]

theorem property?_fixAll_of_mem {bs : List (String × Value)} (hbs : (Dictionary.names bs).Nodup)
    {b : String × Value} (hb : b ∈ bs) (g : Namespace) :
    (g.fixAll bs).property? b.1 = some (.fixedHidden b.2) := by
  have hmem : (b.1, Property.fixedHidden b.2) ∈ bs.map fun b => (b.1, Property.fixedHidden b.2) :=
    List.mem_map.mpr ⟨b, hb, rfl⟩
  unfold property?
  rw [entries_fixAll]
  exact Dictionary.get?_putAll_of_mem (by rwa [names_fixed]) hmem _

theorem property?_fixAll_of_not_mem {bs : List (String × Value)} {name : String}
    (h : name ∉ Dictionary.names bs) (g : Namespace) :
    (g.fixAll bs).property? name = g.property? name := by
  unfold property?
  rw [entries_fixAll]
  exact Dictionary.get?_putAll_of_not_mem (by rwa [names_fixed]) _

theorem names_fixAll {bs : List (String × Value)} (hbs : (Dictionary.names bs).Nodup)
    (g : Namespace) :
    (g.fixAll bs).names = g.names ++ (Dictionary.names bs).filter (· ∉ g.names) := by
  unfold names
  rw [entries_fixAll, Dictionary.names_putAll (by rwa [names_fixed]), names_fixed]

end Namespace

namespace Installation

/-! ## Planning -/

/-- What is planned for a binding that nothing speaks against. -/
def Planned.ofBinding (g : Namespace) (b : String × Value) : Planned :=
  ⟨b.1, .fixedHidden b.2, (g.property? b.1).any (·.identical (.fixedHidden b.2))⟩

/-- What there is to tell of an entry once it is written. -/
def Planned.notice (p : Planned) : Notice :=
  if p.present then .present p.name else .installed p.name

theorem examine_of_free {g : Namespace} {seen : List String} {b : String × Value}
    (hvalid : CapabilityName.isValid b.1 = true) (hnew : b.1 ∉ seen)
    (hfree : g.mayDefine b.1 (.fixedHidden b.2) = true) :
    examine g seen b.1 b.2 = .ok (.ofBinding g b) := by
  simp [examine, Planned.ofBinding, hvalid, hnew, hfree]

theorem examine_of_collision {g : Namespace} {seen : List String} {b : String × Value}
    (hvalid : CapabilityName.isValid b.1 = true) (hnew : b.1 ∉ seen)
    (hfixed : g.mayDefine b.1 (.fixedHidden b.2) = false) :
    examine g seen b.1 b.2 = .error (.collision b.1) := by
  simp [examine, hvalid, hnew, hfixed]

theorem examine_eq_ok_iff {g : Namespace} {seen : List String} {b : String × Value}
    {p : Planned} :
    examine g seen b.1 b.2 = .ok p ↔
      CapabilityName.isValid b.1 = true ∧ b.1 ∉ seen ∧
        g.mayDefine b.1 (.fixedHidden b.2) = true ∧ p = .ofBinding g b := by
  constructor
  · intro h
    unfold examine at h
    simp only [Bool.not_eq_true'] at h
    split at h
    · cases h
    · rename_i hvalid
      split at h
      · cases h
      · rename_i hnew
        split at h
        · cases h
        · rename_i hfree
          cases h
          exact ⟨by simpa using hvalid, hnew, by simpa using hfree, rfl⟩
  · rintro ⟨hvalid, hnew, hfree, rfl⟩
    exact examine_of_free hvalid hnew hfree

theorem plan_cons (g : Namespace) (seen : List String) (b : String × Value)
    (bs : List (String × Value)) :
    plan g seen (b :: bs) =
      (examine g seen b.1 b.2).bind fun p => (plan g (b.1 :: seen) bs).map (p :: ·) := by
  obtain ⟨name, v⟩ := b
  rw [plan]
  cases examine g seen name v with
  | error e => rfl
  | ok p =>
    cases hrest : plan g (name :: seen) bs with
    | error e => simp [bind, Except.bind, Except.map]
    | ok ps => simp [bind, Except.bind, Except.map, pure, Except.pure]

theorem plan_eq_ok_iff {g : Namespace} {seen : List String} {bs : List (String × Value)}
    {ps : List Planned} :
    plan g seen bs = .ok ps ↔
      (Dictionary.names bs).Nodup ∧
      (∀ b ∈ bs, CapabilityName.isValid b.1 = true ∧ b.1 ∉ seen ∧
        g.mayDefine b.1 (.fixedHidden b.2) = true) ∧
      ps = bs.map (.ofBinding g) := by
  induction bs generalizing seen ps with
  | nil =>
    constructor
    · intro h
      cases h
      exact ⟨List.nodup_nil, by simp, rfl⟩
    · rintro ⟨-, -, rfl⟩
      rfl
  | cons b rest ih =>
    rw [plan_cons]
    constructor
    · intro h
      cases hexamine : examine g seen b.1 b.2 with
      | error e => rw [hexamine] at h; cases h
      | ok p =>
        cases hrest : plan g (b.1 :: seen) rest with
        | error e => rw [hexamine, hrest] at h; cases h
        | ok rs =>
          rw [hexamine, hrest] at h
          cases h
          obtain ⟨hvalid, hnew, hfree, rfl⟩ := examine_eq_ok_iff.mp hexamine
          obtain ⟨hnodup, hall, rfl⟩ := ih.mp hrest
          refine ⟨List.nodup_cons.mpr ⟨fun hm => ?_, hnodup⟩, ?_, rfl⟩
          · obtain ⟨c, hc, hname⟩ := List.mem_map.mp hm
            exact (hall c hc).2.1 (hname ▸ List.mem_cons_self)
          · intro c hc
            rcases List.mem_cons.mp hc with rfl | hc
            · exact ⟨hvalid, hnew, hfree⟩
            · obtain ⟨hvalid, hnew, hfree⟩ := hall c hc
              exact ⟨hvalid, fun hm => hnew (List.mem_cons_of_mem _ hm), hfree⟩
    · rintro ⟨hnodup, hall, rfl⟩
      obtain ⟨hhead, hnodup⟩ := List.nodup_cons.mp hnodup
      obtain ⟨hvalid, hnew, hfree⟩ := hall b List.mem_cons_self
      have hrest : plan g (b.1 :: seen) rest = .ok (rest.map (.ofBinding g)) := by
        refine ih.mpr ⟨hnodup, fun c hc => ?_, rfl⟩
        obtain ⟨hvalid, hnew, hfree⟩ := hall c (List.mem_cons_of_mem _ hc)
        refine ⟨hvalid, fun hm => ?_, hfree⟩
        rcases List.mem_cons.mp hm with he | hm
        · exact hhead (List.mem_map.mpr ⟨c, hc, he⟩)
        · exact hnew hm
      rw [examine_of_free hvalid hnew hfree, hrest]
      rfl

/-- With names that are valid and distinct, a plan fails at the first name that the namespace has
fixed to something else, and at no other. -/
theorem plan_eq_first_collision {g : Namespace} {seen : List String} {bs : List (String × Value)}
    (hvalid : ∀ b ∈ bs, CapabilityName.isValid b.1 = true) (hnodup : (Dictionary.names bs).Nodup)
    (hnew : ∀ b ∈ bs, b.1 ∉ seen) :
    plan g seen bs =
      match bs.find? fun b => !g.mayDefine b.1 (.fixedHidden b.2) with
      | some b => .error (.collision b.1)
      | none => .ok (bs.map (.ofBinding g)) := by
  induction bs generalizing seen with
  | nil => rfl
  | cons b rest ih =>
    obtain ⟨hhead, hnodup⟩ := List.nodup_cons.mp hnodup
    have hvb := hvalid b List.mem_cons_self
    have hnb := hnew b List.mem_cons_self
    rw [plan_cons]
    cases hfree : g.mayDefine b.1 (.fixedHidden b.2) with
    | false =>
      rw [examine_of_collision hvb hnb hfree, List.find?_cons_of_pos (by simp [hfree])]
      rfl
    | true =>
      have hnewrest : ∀ c ∈ rest, c.1 ∉ b.1 :: seen := by
        intro c hc hm
        rcases List.mem_cons.mp hm with he | hm
        · exact hhead (List.mem_map.mpr ⟨c, hc, he⟩)
        · exact hnew c (List.mem_cons_of_mem _ hc) hm
      rw [examine_of_free hvb hnb hfree, List.find?_cons_of_neg (by simp [hfree]),
        ih (fun c hc => hvalid c (List.mem_cons_of_mem _ hc)) hnodup hnewrest]
      cases rest.find? fun c => !g.mayDefine c.1 (.fixedHidden c.2) with
      | none => rfl
      | some c => rfl

/-! ## Writing -/

/-- No write of a plan fails. Each binding is judged against the namespace that the writes before it
left, and their names differ from its own. -/
theorem write_planned {bs : List (String × Value)} (hnodup : (Dictionary.names bs).Nodup)
    (planned : Namespace) {g : Namespace}
    (hfree : ∀ b ∈ bs, g.mayDefine b.1 (.fixedHidden b.2) = true) :
    write (bs.map (.ofBinding planned)) g =
      ⟨.ok (), g.fixAll bs, bs.map fun b => (Planned.ofBinding planned b).notice⟩ := by
  induction bs generalizing g with
  | nil => rfl
  | cons b rest ih =>
    obtain ⟨hhead, hnodup⟩ := List.nodup_cons.mp hnodup
    have hdefine : g.define b.1 (.fixedHidden b.2) = .ok (g.write b.1 (.fixedHidden b.2)) :=
      Namespace.define_of_mayDefine (hfree b List.mem_cons_self)
    have hrest : ∀ c ∈ rest,
        (g.write b.1 (.fixedHidden b.2)).mayDefine c.1 (.fixedHidden c.2) = true := by
      intro c hc
      have hne : c.1 ≠ b.1 := fun he => hhead (List.mem_map.mpr ⟨c, hc, he⟩)
      rw [Namespace.mayDefine_congr (Namespace.property?_write_of_ne hne g _)]
      exact hfree c (List.mem_cons_of_mem _ hc)
    have hwrites := ih hnodup hrest
    simp only [List.map_cons, write, Namespace.fixAll_cons]
    rw [show (Planned.ofBinding planned b).name = b.1 from rfl,
      show (Planned.ofBinding planned b).property = .fixedHidden b.2 from rfl, hdefine]
    simp only [hwrites, Planned.notice]
    rfl

/-! ## A whole installation -/

/-- Nothing speaks against installing the bindings. -/
structure Installable (g : Namespace) (bs : List (String × Value)) : Prop where
  nonempty : bs ≠ []
  distinct : (Dictionary.names bs).Nodup
  valid : ∀ b ∈ bs, CapabilityName.isValid b.1 = true
  free : ∀ b ∈ bs, g.mayDefine b.1 (.fixedHidden b.2) = true

theorem Installable.plan_eq {g : Namespace} {bs : List (String × Value)}
    (h : Installable g bs) : plan g [] bs = .ok (bs.map (.ofBinding g)) :=
  plan_eq_ok_iff.mpr ⟨h.distinct, fun b hb => ⟨h.valid b hb, by simp, h.free b hb⟩, rfl⟩

theorem run_of_installable {g : Namespace} {bs : List (String × Value)}
    (h : Installable g bs) :
    run g bs = ⟨.ok (), g.fixAll bs, bs.map fun b => (Planned.ofBinding g b).notice⟩ := by
  have hne : bs.isEmpty = false := by simpa using h.nonempty
  simp only [run, hne, h.plan_eq, Bool.false_eq_true, if_false]
  exact write_planned h.distinct g h.free

theorem run_of_plan_error {g : Namespace} {bs : List (String × Value)} {e : CapabilityError}
    (hne : bs ≠ []) (h : plan g [] bs = .error e) : run g bs = ⟨.error e, g, noticesOf e⟩ := by
  have hne : bs.isEmpty = false := by simpa using hne
  simp only [run, hne, h, Bool.false_eq_true, if_false]

theorem run_of_not_installable {g : Namespace} {bs : List (String × Value)}
    (h : ¬ Installable g bs) : ∃ e, run g bs = ⟨.error e, g, noticesOf e⟩ := by
  by_cases hne : bs = []
  · exact ⟨.emptySet, by simp [run, hne, noticesOf]⟩
  · cases hplan : plan g [] bs with
    | error e => exact ⟨e, run_of_plan_error hne hplan⟩
    | ok ps =>
      obtain ⟨hnodup, hall, -⟩ := plan_eq_ok_iff.mp hplan
      exact absurd ⟨hne, hnodup, fun b hb => (hall b hb).1, fun b hb => (hall b hb).2.2⟩ h

theorem installable_of_run_ok {g : Namespace} {bs : List (String × Value)}
    (h : (run g bs).result = .ok ()) : Installable g bs := by
  by_cases hi : Installable g bs
  · exact hi
  · obtain ⟨e, he⟩ := run_of_not_installable hi
    rw [he] at h
    cases h

end Installation

end CapabilityGateway
