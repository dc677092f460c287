import CapabilityGateway.Guest.Value

/-!
# Bridges

A bridge is the host's table of callables by key. Its entries are kept in ascending order of the
keys, so a key has at most one callable and listing the keys needs no sorting.

* `Bridge.insert_ascending`, `Bridge.erase_ascending`: writing and removing entries keep the order.
-/

namespace CapabilityGateway

namespace Bridge

/-- The entries of a table, by key. -/
abbrev Entries := List (String × Callable)

/-- Keys go strictly upwards. -/
def Ascending (es : Entries) : Prop := es.Pairwise fun a b => a.1 < b.1

def insert (key : String) (f : Callable) : Entries → Entries
  | [] => [(key, f)]
  | e :: rest =>
    if key < e.1 then (key, f) :: e :: rest
    else if key = e.1 then (key, f) :: rest
    else e :: insert key f rest

def erase (key : String) (es : Entries) : Entries := es.filter fun e => e.1 ≠ key

/-! ## Order -/

theorem mem_insert {key : String} {f : Callable} {es : Entries} {e : String × Callable}
    (h : e ∈ insert key f es) : e = (key, f) ∨ e ∈ es := by
  induction es with
  | nil => simpa [insert] using h
  | cons d rest ih =>
    unfold insert at h
    split at h
    · simpa using h
    · split at h
      · rcases List.mem_cons.mp h with h | h
        · exact Or.inl h
        · exact Or.inr (List.mem_cons_of_mem _ h)
      · rcases List.mem_cons.mp h with h | h
        · exact Or.inr (h ▸ List.mem_cons_self)
        · exact (ih h).imp_right (List.mem_cons_of_mem _)

theorem insert_ascending {es : Entries} (h : Ascending es) (key : String) (f : Callable) :
    Ascending (insert key f es) := by
  induction es with
  | nil => simp [insert, Ascending]
  | cons d rest ih =>
    obtain ⟨hd, hrest⟩ := List.pairwise_cons.mp h
    unfold insert
    split
    · rename_i hlt
      refine List.pairwise_cons.mpr ⟨?_, h⟩
      intro e he
      rcases List.mem_cons.mp he with rfl | he
      · exact hlt
      · exact String.lt_trans hlt (hd e he)
    · rename_i hnlt
      split
      · rename_i heq
        exact List.pairwise_cons.mpr ⟨fun e he => heq ▸ hd e he, hrest⟩
      · rename_i hne
        refine List.pairwise_cons.mpr ⟨?_, ih hrest⟩
        intro e he
        rcases mem_insert he with rfl | he
        · have hle : d.1 ≤ key := String.not_lt.mp hnlt
          by_cases hlt : d.1 < key
          · exact hlt
          · exact absurd (String.le_antisymm (String.not_lt.mp hlt) hle) hne
        · exact hd e he

theorem erase_ascending {es : Entries} (h : Ascending es) (key : String) :
    Ascending (erase key es) :=
  h.sublist List.filter_sublist

end Bridge

structure Bridge where
  entries : Bridge.Entries
  ascending : Bridge.Ascending entries

namespace Bridge

def empty : Bridge := ⟨[], List.Pairwise.nil⟩

/-- The callable under a key. -/
def resolve (b : Bridge) (key : String) : Option Callable :=
  (b.entries.find? fun e => e.1 = key).map Prod.snd

def contains (b : Bridge) (key : String) : Bool := (b.resolve key).isSome

/-- The keys in ascending order of their characters. -/
def keys (b : Bridge) : List String := b.entries.map Prod.fst

/-- The table with a callable under a key, in place of the one that was there. -/
def register (b : Bridge) (key : String) (f : Callable) : Bridge :=
  ⟨insert key f b.entries, insert_ascending b.ascending key f⟩

/-- The table without the callable under a key. -/
def unregister (b : Bridge) (key : String) : Bridge :=
  ⟨erase key b.entries, erase_ascending b.ascending key⟩

end Bridge

end CapabilityGateway
