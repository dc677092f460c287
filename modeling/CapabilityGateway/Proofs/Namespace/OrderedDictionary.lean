import CapabilityGateway.Proofs.Namespace.Registry
import Mathlib.Data.Set.Card

/-!
# Namespaces as ordered dictionaries

A namespace that came about by edits can be read in many ways, by names, by values or as a list, and
all of them agree with one map. The list has an order of its own, that of the latest creation: a
name that is bound keeps its place, and a name that is removed and created again comes last.

* `Namespace.CreatedBy`, `Namespace.createdBy_of_since?`: the moment that a registry keeps is that
  of the latest creation.
* `Namespace.Shows`, `Namespace.Refuses`, `Namespace.Edit.Local`: reading a namespace, refusing
  operations, and leaving everything else alone.
* `Namespace.ordered_dictionary`: every namespace that came about by edits.
-/

namespace CapabilityGateway

namespace Namespace

/-- The latest creation of the name was edit `k`: it was not bound before, and has been ever
since. -/
structure CreatedBy (edits : List Edit) (name : String) (k : Nat) : Prop where
  happened : k < edits.length
  new : name ∉ (edited (edits.take k)).names
  kept : ∀ j, k < j → j ≤ edits.length → name ∈ (edited (edits.take j)).names

variable {edits : List Edit} {e : Edit} {name : String} {k : Nat}

theorem CreatedBy.snoc (h : CreatedBy edits name k) (hname : name ∈ (edited (edits ++ [e])).names) :
    CreatedBy (edits ++ [e]) name k where
  happened := by
    have := h.happened
    simp only [List.length_append, List.length_singleton]
    omega
  new := by
    rw [List.take_append_of_le_length (Nat.le_of_lt h.happened)]
    exact h.new
  kept j hkj hj := by
    rw [List.length_append, List.length_singleton] at hj
    by_cases hlast : j = edits.length + 1
    · rwa [hlast, List.take_of_length_le (by simp)]
    · rw [List.take_append_of_le_length (by omega)]
      exact h.kept j hkj (by omega)

theorem createdBy_last (hold : name ∉ (edited edits).names)
    (hname : name ∈ (edited (edits ++ [e])).names) :
    CreatedBy (edits ++ [e]) name edits.length where
  happened := by simp
  new := by
    rw [List.take_append_of_le_length (Nat.le_refl _), List.take_length]
    exact hold
  kept j hkj hj := by
    rw [List.length_append, List.length_singleton] at hj
    have hlast : j = edits.length + 1 := by omega
    rwa [hlast, List.take_of_length_le (by simp)]

/-- The moment that a registry keeps is that of the latest creation. -/
theorem createdBy_of_since? (h : (Registry.after edits).since? name = some k) :
    CreatedBy edits name k := by
  induction edits using List.reverseRecOn generalizing k with
  | nil => cases h
  | append_singleton edits e ih =>
    have hbefore := Registry.describes_after edits
    have hafter := Registry.describes_after (edits ++ [e])
    have hname : name ∈ (edited (edits ++ [e])).names := by
      rw [mem_names_iff, hafter.property, ← Registry.since?_isSome, h]
      rfl
    rw [Registry.after_snoc, Registry.since?_perform] at h
    obtain ⟨p, -, hk⟩ := Option.map_eq_some_iff.mp h
    cases hold : (Registry.after edits).since? name with
    | some i =>
      rw [hold, Option.getD_some] at hk
      exact (ih (hk ▸ hold)).snoc hname
    | none =>
      rw [hold, Option.getD_none, Registry.now_after] at hk
      subst hk
      refine createdBy_last ?_ hname
      rw [mem_names_iff, hbefore.property, ← Registry.since?_isSome, hold]
      simp

/-! ## Ordered dictionaries -/

/-- Everything that can be read from a namespace agrees with one map from names to properties. -/
structure Shows (g : Namespace) (bound : String → Option Property) : Prop where
  property : ∀ name, g.property? name = bound name
  has : ∀ name, g.has name = (bound name).isSome
  get : ∀ name, g.get? name = (bound name).map (·.value)
  resolved : ∀ name v, g.resolve name = .ok v ↔ ∃ p, bound name = some p ∧ p.value = v
  unresolved : ∀ name f, g.resolve name = .error f ↔ bound name = none ∧ f = .undefinedVariable name
  names : ∀ name, name ∈ g.names ↔ (bound name).isSome
  keys : g.keys = g.names.filter fun name => (bound name).any (·.attributes.enumerable)
  size : g.size = {name | (bound name).isSome}.ncard

theorem shows_of_property (g : Namespace) {bound : String → Option Property}
    (h : ∀ name, g.property? name = bound name) : g.Shows bound := by
  obtain rfl : g.property? = bound := funext h
  have hsize : g.size = {name | (g.property? name).isSome}.ncard := by
    have hset : {name | (g.property? name).isSome} = (g.names.toFinset : Set String) := by
      ext name
      rw [Set.mem_ofPred_eq, List.coe_toFinset, Set.mem_ofPred_eq, mem_names_iff]
    rw [hset, Set.ncard_coe_finset, List.toFinset_card_of_nodup g.nodup_names, length_names]
  refine ⟨h, fun _ => rfl, fun _ => rfl, fun name v => ?_, fun name f => ?_,
    fun _ => mem_names_iff, g.keys_eq_filter, hsize⟩
  · unfold resolve get?
    cases g.property? name <;> simp
  · unfold resolve get?
    cases g.property? name <;> simp [@eq_comm _ f]

/-- When operations are refused, and how. -/
structure Refuses (g : Namespace) : Prop where
  define : ∀ name q f, g.define name q = .error f ↔
    f = .notConfigurable name ∧ ∃ p, g.property? name = some p ∧
      p.attributes.configurable = false ∧ p.identical q = false
  check : ∀ name q f, g.checkDefine name q = .error f ↔ g.define name q = .error f
  set : ∀ name v f, g.set name v = .error f ↔
    f = .readOnlyBinding name ∧ ∃ p, g.property? name = some p ∧ p.attributes.writable = false
  delete : ∀ name f, g.delete name = .error f ↔
    f = .notConfigurable name ∧ ∃ p, g.property? name = some p ∧ p.attributes.configurable = false

theorem refuses (g : Namespace) : g.Refuses where
  define name q f := by
    unfold define mayDefine
    cases g.property? name with
    | none => simp
    | some p =>
      cases hc : p.attributes.configurable <;> cases hi : p.identical q <;>
        simp [hc, hi, @eq_comm _ f]
  check name q f := by
    unfold checkDefine define
    split <;> simp
  set name v f := by
    unfold set
    cases g.property? name with
    | none => simp
    | some p => cases hw : p.attributes.writable <;> simp [hw, @eq_comm _ f]
  delete name f := by
    unfold delete
    cases g.property? name with
    | none => simp
    | some p => cases hc : p.attributes.configurable <;> simp [hc, @eq_comm _ f]

/-- What an edit does not do: a refused one changes nothing, and any other touches its own name
only. That name keeps its place while it is bound, and comes last when it is new. -/
structure Edit.Local (e : Edit) (g : Namespace) : Prop where
  refused : ∀ f, (e.perform g).1 = .error f → (e.perform g).2 = g
  others : ∀ name, name ≠ e.name → (e.perform g).2.property? name = g.property? name
  order : (e.perform g).2.names.filter (· ≠ e.name) = g.names.filter (· ≠ e.name)
  place : e.name ∈ g.names → e.name ∈ (e.perform g).2.names → (e.perform g).2.names = g.names
  last : e.name ∉ g.names → e.name ∈ (e.perform g).2.names →
    (e.perform g).2.names = g.names ++ [e.name]

theorem local_settle (g : Namespace) (name : String) (bound : Option Property) :
    (name ∈ g.names → name ∈ (g.settle name bound).names → (g.settle name bound).names = g.names) ∧
      (name ∉ g.names → name ∈ (g.settle name bound).names →
        (g.settle name bound).names = g.names ++ [name]) := by
  cases bound with
  | some p => exact ⟨fun h _ => names_write_of_mem h p, fun h _ => names_write_of_not_mem h p⟩
  | none =>
    have hgone : name ∉ (g.settle name none).names := by
      rw [settle, names_erase]
      simp
    exact ⟨fun _ h => absurd h hgone, fun _ h => absurd h hgone⟩

theorem Edit.perform_local (e : Edit) (g : Namespace) : e.Local g := by
  have hperform := e.perform_eq g
  cases hfault : (g.property? e.name).bind e.faultAt with
  | some f =>
    rw [hfault] at hperform
    have hsame : (e.perform g).2 = g := congrArg Prod.snd hperform
    constructor
    · intro _ _
      exact hsame
    · intro name _
      rw [hsame]
    · rw [hsame]
    · intro _ _
      rw [hsame]
    · intro hnew hbound
      rw [hsame] at hbound
      exact absurd hbound hnew
  | none =>
    rw [hfault] at hperform
    have hanswer : (e.perform g).1 = .ok (e.answer (g.property? e.name)) :=
      congrArg Prod.fst hperform
    have hleft : (e.perform g).2 = g.settle e.name (e.outcome (g.property? e.name)) :=
      congrArg Prod.snd hperform
    obtain ⟨hplace, hlast⟩ := local_settle g e.name (e.outcome (g.property? e.name))
    constructor
    · intro f hf
      rw [hanswer] at hf
      cases hf
    · intro name hname
      rw [hleft, property?_settle, if_neg hname]
    · rw [hleft]
      exact filter_names_settle g e.name _
    · rw [hleft]
      exact hplace
    · rw [hleft]
      exact hlast

/-- A namespace that came about by edits is an ordered dictionary. It binds what its registry says,
its names stand in the order of their latest creation, and the next edit is answered by the rules of
the registry, and refused only where it meets something that is fixed. -/
theorem ordered_dictionary (edits : List Edit) :
    let g := edited edits
    let r := Registry.after edits
    g.names.Nodup ∧ g.Shows r.property? ∧
      (g.names.Pairwise fun a b => ∃ i j, CreatedBy edits a i ∧ CreatedBy edits b j ∧ i < j) ∧
      g.Refuses ∧ ∀ e : Edit, (e.perform g).1 = (r.perform e).1 ∧ e.Local g := by
  intro g r
  have hdescribes : r.Describes g := Registry.describes_after edits
  refine ⟨g.nodup, g.shows_of_property hdescribes.property, ?_, g.refuses, fun e => ?_⟩
  · refine hdescribes.chronological.imp ?_
    rintro a b ⟨i, j, hi, hj, hij⟩
    exact ⟨i, j, createdBy_of_since? hi, createdBy_of_since? hj, hij⟩
  · exact ⟨(hdescribes.perform e).1, e.perform_local g⟩

/-- A name that is removed and created again comes last, and one that is assigned to stays. -/
example : (edited [.set "a" .null, .set "b" .null, .delete "a", .set "a" .null,
    .set "b" .undefined]).names = ["b", "a"] := by decide

end Namespace

end CapabilityGateway
