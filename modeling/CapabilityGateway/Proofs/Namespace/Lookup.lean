import CapabilityGateway.Proofs.Dictionary
import CapabilityGateway.Proofs.Sameness

/-!
# Reading a namespace after writing

What a namespace holds under a name after another name, or the same one, was written or erased, and
what its lists of names say about that.

* `Namespace.property?_write`, `Namespace.property?_erase_self`, `Namespace.property?_erase_of_ne`:
  an operation on one name leaves the properties of the others alone.
* `Namespace.mem_keys_iff`: the listed names are those of enumerable properties.
* `Namespace.names_write_of_mem`, `Namespace.names_write_of_not_mem`, `Namespace.names_erase`: what
  an operation does to the order of the names.
* `Namespace.mayDefine_iff`, `Namespace.define_cases`: when a definition is allowed, and what it
  does.
-/

namespace CapabilityGateway

namespace Namespace

/-- A namespace is its entries. -/
theorem eq_of_entries {g h : Namespace} (he : g.entries = h.entries) : g = h := by
  cases g
  cases h
  cases he
  rfl

/-! ## Properties and names -/

theorem property?_write (g : Namespace) (name other : String) (p : Property) :
    (g.write name p).property? other = if other = name then some p else g.property? other :=
  Dictionary.get?_put name other p g.entries

@[simp] theorem property?_write_self (g : Namespace) (name : String) (p : Property) :
    (g.write name p).property? name = some p :=
  Dictionary.get?_put_self name p g.entries

theorem property?_write_of_ne {name other : String} (h : other ≠ name) (g : Namespace)
    (p : Property) : (g.write name p).property? other = g.property? other :=
  Dictionary.get?_put_of_ne h p g.entries

theorem property?_erase_of_ne {name other : String} (h : other ≠ name) (g : Namespace) :
    (g.erase name).property? other = g.property? other :=
  Dictionary.get?_erase_of_ne h g.entries

/-- Erasing a name unbinds it. This needs the names to be distinct. -/
theorem property?_erase_self (g : Namespace) (name : String) :
    (g.erase name).property? name = none :=
  Dictionary.get?_erase_self g.nodup name

@[simp] theorem property?_empty (name : String) : empty.property? name = none := rfl

theorem mem_keys_iff {g : Namespace} {name : String} :
    name ∈ g.keys ↔ ∃ p, g.property? name = some p ∧ p.attributes.enumerable = true := by
  constructor
  · intro h
    obtain ⟨e, he, rfl⟩ := List.mem_map.mp h
    obtain ⟨hmem, henum⟩ := List.mem_filter.mp he
    exact ⟨e.2, Dictionary.get?_of_mem g.nodup hmem, henum⟩
  · rintro ⟨p, hp, henum⟩
    have hmem := Dictionary.mem_of_get? hp
    exact List.mem_map.mpr ⟨(name, p), List.mem_filter.mpr ⟨hmem, henum⟩, rfl⟩

theorem resolve_of_property? {g : Namespace} {name : String} {p : Property}
    (h : g.property? name = some p) : g.resolve name = .ok p.value := by
  simp [resolve, get?, h]

/-! ## Lists of names -/

theorem nodup_names (g : Namespace) : g.names.Nodup := g.nodup

theorem length_names (g : Namespace) : g.names.length = g.size := List.length_map _

theorem mem_names_iff {g : Namespace} {name : String} :
    name ∈ g.names ↔ (g.property? name).isSome := by
  cases hp : g.property? name with
  | none =>
    have hnot : name ∉ g.names := Dictionary.get?_eq_none_iff.mp hp
    simpa using hnot
  | some p =>
    have hmem : name ∈ g.names := Dictionary.mem_names_of_get? hp
    simpa using hmem

theorem names_write_of_mem {g : Namespace} {name : String} (h : name ∈ g.names) (p : Property) :
    (g.write name p).names = g.names :=
  Dictionary.names_put_of_mem h p

theorem names_write_of_not_mem {g : Namespace} {name : String} (h : name ∉ g.names)
    (p : Property) : (g.write name p).names = g.names ++ [name] :=
  Dictionary.names_put_of_not_mem h p

theorem names_erase (g : Namespace) (name : String) :
    (g.erase name).names = g.names.filter (· ≠ name) := by
  have herase : (g.erase name).names = g.names.erase name := Dictionary.names_erase name g.entries
  rw [herase, g.nodup_names.erase_eq_filter]
  refine List.filter_congr fun n _ => ?_
  by_cases hn : n = name <;> simp [hn]

theorem erase_of_not_mem {g : Namespace} {name : String} (h : name ∉ g.names) : g.erase name = g :=
  eq_of_entries (Dictionary.erase_of_not_mem h)

/-- The names that are listed are found by looking each name up. -/
theorem keys_eq_filter (g : Namespace) :
    g.keys = g.names.filter fun name => (g.property? name).any (·.attributes.enumerable) := by
  rw [keys, names, Dictionary.names, Dictionary.names, List.filter_map]
  congr 1
  refine List.filter_congr fun e he => ?_
  have hfound : g.property? e.1 = some e.2 := Dictionary.get?_of_mem g.nodup he
  simp [hfound]

/-! ## Definitions -/

theorem mayDefine_iff {g : Namespace} {name : String} {p : Property} :
    g.mayDefine name p = true ↔
      ∀ q, g.property? name = some q →
        q.attributes.configurable = true ∨ q.identical p = true := by
  unfold mayDefine
  cases g.property? name with
  | none => simp
  | some q => simp

/-- A definition is allowed or not by what the name is bound to, so a write elsewhere does not
matter. -/
theorem mayDefine_congr {g h : Namespace} {name : String} (hp : g.property? name = h.property? name)
    (p : Property) : g.mayDefine name p = h.mayDefine name p := by
  simp only [mayDefine, hp]

theorem define_of_mayDefine {g : Namespace} {name : String} {p : Property}
    (h : g.mayDefine name p = true) : g.define name p = .ok (g.write name p) := by
  simp [define, h]

theorem define_cases (g : Namespace) (name : String) (p : Property) :
    (g.mayDefine name p = true ∧ g.define name p = .ok (g.write name p)) ∨
      g.define name p = .error (.notConfigurable name) := by
  cases h : g.mayDefine name p with
  | true => exact Or.inl ⟨rfl, define_of_mayDefine h⟩
  | false => exact Or.inr (by simp [define, h])

end Namespace

end CapabilityGateway
