import CapabilityGateway.Dictionary

/-!
# Looking up names in dictionaries

What a dictionary holds under a name after entries were written or erased, and in which order its
names stand.

* `Dictionary.get?_put`, `Dictionary.get?_erase_of_ne`: writing and erasing touch one name only.
* `Dictionary.get?_putAll_of_mem`, `Dictionary.get?_putAll_of_not_mem`, `Dictionary.names_putAll`:
  writing entries with distinct names one after another.
* `Dictionary.ofList_of_nodup`: entries with distinct names are a dictionary as they stand.
* `Dictionary.nodup_ofList`, `Dictionary.mem_of_mem_ofList`: a dictionary has distinct names, and
  nothing that it was not given.
* `Dictionary.mapValues`: what is done under the names does not depend on what they hold.
-/

namespace CapabilityGateway

namespace Dictionary

variable {α : Type}

@[simp] theorem names_nil : names ([] : Dictionary α) = [] := rfl

@[simp] theorem names_cons (e : String × α) (d : Dictionary α) :
    names (e :: d) = e.1 :: names d := rfl

theorem names_append (d e : Dictionary α) : names (d ++ e) = names d ++ names e :=
  List.map_append

/-! ## Lookup and membership -/

theorem mem_of_get? {name : String} {a : α} {d : Dictionary α} (h : get? name d = some a) :
    (name, a) ∈ d := by
  induction d with
  | nil => cases h
  | cons e rest ih =>
    unfold get? at h
    split at h
    · rename_i he
      cases h
      exact he ▸ List.mem_cons_self
    · exact List.mem_cons_of_mem _ (ih h)

theorem mem_names_of_get? {name : String} {a : α} {d : Dictionary α} (h : get? name d = some a) :
    name ∈ names d :=
  List.mem_map.mpr ⟨_, mem_of_get? h, rfl⟩

theorem get?_of_mem {name : String} {a : α} {d : Dictionary α} (hd : (names d).Nodup)
    (h : (name, a) ∈ d) : get? name d = some a := by
  induction d with
  | nil => cases h
  | cons e rest ih =>
    obtain ⟨hhead, hrest⟩ := List.nodup_cons.mp hd
    rcases List.mem_cons.mp h with rfl | h
    · simp [get?]
    · have hne : e.1 ≠ name := fun he => hhead (List.mem_map.mpr ⟨_, h, he.symm⟩)
      simpa [get?, hne] using ih hrest h

theorem get?_eq_none_iff {name : String} {d : Dictionary α} :
    get? name d = none ↔ name ∉ names d := by
  induction d with
  | nil => simp [get?]
  | cons e rest ih =>
    by_cases he : e.1 = name
    · simp [get?, he]
    · simp [get?, he, ih, Ne.symm he]

/-! ## One entry -/

theorem get?_put_self (name : String) (a : α) (d : Dictionary α) :
    get? name (put name a d) = some a := by
  induction d with
  | nil => simp [put, get?]
  | cons e rest ih =>
    by_cases he : e.1 = name
    · simp [put, get?, he]
    · simpa [put, get?, he] using ih

theorem get?_put_of_ne {name other : String} (h : other ≠ name) (a : α) (d : Dictionary α) :
    get? other (put name a d) = get? other d := by
  induction d with
  | nil => simp [put, get?, Ne.symm h]
  | cons e rest ih =>
    by_cases he : e.1 = name
    · have hother : ¬ name = other := Ne.symm h
      simp [put, get?, he, hother]
    · by_cases ho : e.1 = other
      · have hname : ¬ other = name := h
        simp [put, get?, ho, hname]
      · simpa [put, get?, he, ho] using ih

theorem put_of_not_mem {name : String} {d : Dictionary α} (h : name ∉ names d) (a : α) :
    put name a d = d ++ [(name, a)] := by
  induction d with
  | nil => rfl
  | cons e rest ih =>
    rw [names_cons, List.mem_cons, not_or] at h
    have hne : ¬ e.1 = name := Ne.symm h.1
    simp [put, hne, ih h.2]

/-- Writing an entry changes what is held under its own name, and nothing else. -/
theorem get?_put (name other : String) (a : α) (d : Dictionary α) :
    get? other (put name a d) = if other = name then some a else get? other d := by
  split
  · rename_i h
    rw [h, get?_put_self]
  · rename_i h
    exact get?_put_of_ne h a d

theorem get?_erase_self {d : Dictionary α} (hd : (names d).Nodup) (name : String) :
    get? name (erase name d) = none := by
  induction d with
  | nil => rfl
  | cons e rest ih =>
    obtain ⟨hhead, hrest⟩ := List.nodup_cons.mp hd
    by_cases he : e.1 = name
    · subst he
      simpa [erase] using get?_eq_none_iff.mpr hhead
    · simpa [erase, get?, he] using ih hrest

theorem get?_erase_of_ne {name other : String} (h : other ≠ name) (d : Dictionary α) :
    get? other (erase name d) = get? other d := by
  induction d with
  | nil => rfl
  | cons e rest ih =>
    by_cases he : e.1 = name
    · have hother : ¬ name = other := Ne.symm h
      simp [erase, get?, he, hother]
    · by_cases ho : e.1 = other
      · have hname : ¬ other = name := h
        simp [erase, get?, ho, hname]
      · simpa [erase, get?, he, ho] using ih

theorem names_erase (name : String) (d : Dictionary α) :
    names (erase name d) = (names d).erase name := by
  induction d with
  | nil => rfl
  | cons e rest ih =>
    by_cases he : e.1 = name
    · simp [erase, he]
    · simp [erase, he, ih]

theorem mem_of_mem_erase {name : String} {d : Dictionary α} {e : String × α}
    (h : e ∈ erase name d) : e ∈ d := by
  induction d with
  | nil => exact h
  | cons b d ih =>
    rw [erase] at h
    split at h
    · exact List.mem_cons_of_mem b h
    · rcases List.mem_cons.mp h with rfl | h
      · exact List.mem_cons_self
      · exact List.mem_cons_of_mem b (ih h)

theorem erase_of_not_mem {name : String} {d : Dictionary α} (h : name ∉ names d) :
    erase name d = d := by
  induction d with
  | nil => rfl
  | cons e rest ih =>
    rw [names_cons, List.mem_cons, not_or] at h
    have hne : ¬ e.1 = name := Ne.symm h.1
    simp [erase, hne, ih h.2]

/-! ## Several entries -/

theorem putAll_cons (e : String × α) (es : List (String × α)) (d : Dictionary α) :
    putAll d (e :: es) = putAll (put e.1 e.2 d) es := rfl

theorem get?_putAll_of_not_mem {name : String} {es : List (String × α)} (h : name ∉ names es)
    (d : Dictionary α) : get? name (putAll d es) = get? name d := by
  induction es generalizing d with
  | nil => rfl
  | cons e rest ih =>
    rw [names_cons, List.mem_cons, not_or] at h
    rw [putAll_cons, ih h.2, get?_put_of_ne h.1]

theorem get?_putAll_of_mem {name : String} {a : α} {es : List (String × α)}
    (hes : (names es).Nodup) (h : (name, a) ∈ es) (d : Dictionary α) :
    get? name (putAll d es) = some a := by
  induction es generalizing d with
  | nil => cases h
  | cons e rest ih =>
    obtain ⟨hhead, hrest⟩ := List.nodup_cons.mp hes
    rw [putAll_cons]
    rcases List.mem_cons.mp h with rfl | h
    · rw [get?_putAll_of_not_mem hhead, get?_put_self]
    · exact ih hrest h _

/-- Names that are present keep their place, and the others follow in the order in which they are
written. -/
theorem names_putAll {es : List (String × α)} (hes : (names es).Nodup) (d : Dictionary α) :
    names (putAll d es) = names d ++ (names es).filter (· ∉ names d) := by
  induction es generalizing d with
  | nil => simp [putAll]
  | cons e rest ih =>
    obtain ⟨hhead, hrest⟩ := List.nodup_cons.mp hes
    rw [putAll_cons, ih hrest, names_cons]
    by_cases hm : e.1 ∈ names d
    · rw [names_put_of_mem hm, List.filter_cons_of_neg (by simpa using hm)]
    · rw [names_put_of_not_mem hm, List.filter_cons_of_pos (by simpa using hm), List.append_assoc,
        List.singleton_append]
      congr 2
      refine List.filter_congr fun n hn => ?_
      have hne : n ≠ e.1 := fun he => hhead (he ▸ hn)
      simp [hne]

theorem putAll_eq_append {d es : Dictionary α} (h : (names (d ++ es)).Nodup) :
    putAll d es = d ++ es := by
  induction es generalizing d with
  | nil => simp [putAll]
  | cons e rest ih =>
    have hnot : e.1 ∉ names d := by
      simp only [names, List.map_append, List.map_cons, List.nodup_append] at h
      intro hm
      exact h.2.2 e.1 hm e.1 List.mem_cons_self rfl
    rw [putAll_cons, put_of_not_mem hnot, ih (by simpa using h)]
    simp

/-- Entries with distinct names are a dictionary as they stand. -/
theorem ofList_of_nodup {es : List (String × α)} (h : (names es).Nodup) : ofList es = es :=
  putAll_eq_append (d := []) h

theorem nodup_putAll {d : Dictionary α} (hd : (names d).Nodup) (es : List (String × α)) :
    (names (putAll d es)).Nodup := by
  induction es generalizing d with
  | nil => exact hd
  | cons e es ih => exact ih (nodup_put hd e.1 e.2)

theorem nodup_ofList (es : List (String × α)) : (names (ofList es)).Nodup :=
  nodup_putAll (d := []) List.nodup_nil es

theorem mem_put {name : String} {a : α} {d : Dictionary α} {e : String × α}
    (h : e ∈ put name a d) : e = (name, a) ∨ e ∈ d := by
  induction d with
  | nil => exact .inl (List.mem_singleton.mp h)
  | cons b d ih =>
    rw [put] at h
    split at h
    next hname =>
      rcases List.mem_cons.mp h with rfl | h
      · exact .inl (by rw [hname])
      · exact .inr (List.mem_cons_of_mem b h)
    next =>
      rcases List.mem_cons.mp h with rfl | h
      · exact .inr List.mem_cons_self
      · exact (ih h).imp_right (List.mem_cons_of_mem b)

/-- What is in a dictionary was given when it was made. -/
theorem mem_putAll {d : Dictionary α} {es : List (String × α)} {e : String × α}
    (h : e ∈ putAll d es) : e ∈ d ∨ e ∈ es := by
  induction es generalizing d with
  | nil => exact .inl h
  | cons b es ih =>
    rcases ih h with h | h
    · rcases mem_put h with rfl | h
      · exact .inr List.mem_cons_self
      · exact .inl h
    · exact .inr (List.mem_cons_of_mem b h)

theorem mem_of_mem_ofList {es : List (String × α)} {e : String × α} (h : e ∈ ofList es) : e ∈ es :=
  (mem_putAll h).resolve_left List.not_mem_nil

/-! ## Other values under the same names -/

variable {β : Type}

/-- The dictionary with a function applied to everything that it holds. -/
def mapValues (f : α → β) (d : Dictionary α) : Dictionary β := d.map fun e => (e.1, f e.2)

variable (f : α → β)

@[simp] theorem names_mapValues (d : Dictionary α) : names (mapValues f d) = names d := by
  simp [names, mapValues]

theorem get?_mapValues (name : String) (d : Dictionary α) :
    get? name (mapValues f d) = (get? name d).map f := by
  induction d with
  | nil => rfl
  | cons e rest ih =>
    by_cases he : e.1 = name
    · simp [mapValues, get?, he]
    · simpa [mapValues, get?, he] using ih

theorem put_mapValues (name : String) (a : α) (d : Dictionary α) :
    put name (f a) (mapValues f d) = mapValues f (put name a d) := by
  induction d with
  | nil => rfl
  | cons e rest ih =>
    by_cases he : e.1 = name
    · simp [mapValues, put, he]
    · simpa [mapValues, put, he] using ih

theorem erase_mapValues (name : String) (d : Dictionary α) :
    erase name (mapValues f d) = mapValues f (erase name d) := by
  induction d with
  | nil => rfl
  | cons e rest ih =>
    by_cases he : e.1 = name
    · simp [mapValues, erase, he]
    · simpa [mapValues, erase, he] using ih

end Dictionary

end CapabilityGateway
