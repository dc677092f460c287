/-!
# Dictionaries in order of insertion

A dictionary is a list of entries. Writing to a name that is present replaces its entry in place,
writing to a new name appends an entry, so the names stay in the order in which they were first
written.

* `Dictionary.names_put_of_mem`, `Dictionary.names_put_of_not_mem`: what writing does to the names.
* `Dictionary.nodup_put`, `Dictionary.nodup_erase`: writing and erasing keep the names distinct.
-/

namespace CapabilityGateway

/-- Entries with their names, in order of insertion. -/
abbrev Dictionary (α : Type) := List (String × α)

namespace Dictionary

variable {α : Type}

def names (d : Dictionary α) : List String := d.map Prod.fst

/-- The entry of a name. -/
def get? (name : String) : Dictionary α → Option α
  | [] => none
  | (n, a) :: rest => if n = name then some a else get? name rest

/-- The dictionary after writing an entry. -/
def put (name : String) (a : α) : Dictionary α → Dictionary α
  | [] => [(name, a)]
  | (n, b) :: rest => if n = name then (n, a) :: rest else (n, b) :: put name a rest

/-- The dictionary without the entry of a name. -/
def erase (name : String) : Dictionary α → Dictionary α
  | [] => []
  | (n, b) :: rest => if n = name then rest else (n, b) :: erase name rest

/-- The dictionary after writing some entries one after another. -/
def putAll (d : Dictionary α) (entries : List (String × α)) : Dictionary α :=
  entries.foldl (fun d e => put e.1 e.2 d) d

def ofList (entries : List (String × α)) : Dictionary α := putAll [] entries

/-! ## Names -/

theorem names_put_of_mem {name : String} {d : Dictionary α} (h : name ∈ names d) (a : α) :
    names (put name a d) = names d := by
  induction d with
  | nil => simp [names] at h
  | cons e rest ih =>
    by_cases he : e.1 = name
    · simp [put, he, names]
    · have hrest : name ∈ names rest := by
        simpa [names, Ne.symm he] using h
      have := ih hrest
      simp only [names] at this
      simp [put, he, names, this]

theorem names_put_of_not_mem {name : String} {d : Dictionary α} (h : name ∉ names d) (a : α) :
    names (put name a d) = names d ++ [name] := by
  induction d with
  | nil => simp [put, names]
  | cons e rest ih =>
    have he : ¬ e.1 = name := fun he => h (by simp [names, he])
    have hrest : name ∉ names rest := fun hm => h (by simp_all [names])
    have := ih hrest
    simp only [names] at this
    simp [put, he, names, this]

theorem nodup_put {d : Dictionary α} (h : (names d).Nodup) (name : String) (a : α) :
    (names (put name a d)).Nodup := by
  by_cases hm : name ∈ names d
  · rw [names_put_of_mem hm]
    exact h
  · rw [names_put_of_not_mem hm, List.nodup_append]
    refine ⟨h, by simp, ?_⟩
    intro x hx y hy hxy
    simp only [List.mem_singleton] at hy
    exact hm (hy ▸ hxy ▸ hx)

theorem names_erase_sublist (name : String) (d : Dictionary α) :
    (names (erase name d)).Sublist (names d) := by
  induction d with
  | nil => simp [erase]
  | cons e rest ih =>
    by_cases he : e.1 = name
    · simp [erase, he, names]
    · simp only [erase, he, if_false, names, List.map_cons]
      exact ih.cons_cons _

theorem nodup_erase {d : Dictionary α} (h : (names d).Nodup) (name : String) :
    (names (erase name d)).Nodup :=
  (names_erase_sublist name d).nodup h

end Dictionary

end CapabilityGateway
