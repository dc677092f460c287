import CapabilityGateway.Guest.Value
import CapabilityGateway.Proofs.Dictionary
import Mathlib.Data.Finset.Card

/-!
# Objects from pairs

An object is made by writing pairs one after another. A key stands where its first pair put it and
holds what its last pair gave. Both come about in the one loop, so they are kept by one invariant,
which relates a dictionary to all entries that were written so far.

* `Dictionary.Collects`: the invariant.
* `Dictionary.Collects.put`, `Dictionary.Collects.putAll`: what one more entry does, and any number.
* `Value.object_of_pairs`: what an object is, whatever pairs it was made of.
-/

namespace CapabilityGateway

namespace Dictionary

variable {α : Type} {d : Dictionary α} {es : List (String × α)}

/-- What the last of the entries under a name holds. -/
def last? (name : String) (es : List (String × α)) : Option α :=
  (es.filter fun e => e.1 = name).getLast?.map Prod.snd

theorem last?_snoc (name : String) (es : List (String × α)) (e : String × α) :
    last? name (es ++ [e]) = if name = e.1 then some e.2 else last? name es := by
  rw [last?, List.filter_append]
  split
  · rename_i h
    simp [h]
  · rename_i h
    simp [last?, Ne.symm h]

/-- The dictionary is what the entries come to. Its names are those of the entries, in the order in
which they came first, and each holds what it was given last. -/
structure Collects (d : Dictionary α) (es : List (String × α)) : Prop where
  mem : ∀ name, name ∈ names d ↔ name ∈ names es
  order : (names d).Pairwise fun a b => (names es).idxOf a < (names es).idxOf b
  lookup : ∀ name, get? name d = last? name es

namespace Collects

theorem empty : Collects ([] : Dictionary α) [] := ⟨fun _ => Iff.rfl, .nil, fun _ => rfl⟩

theorem distinct (h : Collects d es) : (names d).Nodup := by
  refine h.order.imp fun {a b} hlt heq => ?_
  rw [heq] at hlt
  exact Nat.lt_irrefl _ hlt

theorem length_eq (h : Collects d es) : d.length = (names es).toFinset.card := by
  have hnames : (names es).toFinset = (names d).toFinset := by
    ext name
    rw [List.mem_toFinset, List.mem_toFinset, h.mem]
  rw [hnames, List.toFinset_card_of_nodup h.distinct, names, List.length_map]

theorem mem_put (h : Collects d es) (e : String × α) (name : String) :
    name ∈ names (Dictionary.put e.1 e.2 d) ↔ name ∈ names (es ++ [e]) := by
  rw [names_append, List.mem_append, ← h.mem]
  by_cases hm : e.1 ∈ names d
  · rw [names_put_of_mem hm]
    refine ⟨.inl, fun hname => hname.elim id fun hlast => ?_⟩
    rwa [List.mem_singleton.mp hlast]
  · rw [names_put_of_not_mem hm, List.mem_append]
    exact Iff.rfl

/-- Names that were there keep the place of their first entry, and a new one comes last. -/
theorem order_put (h : Collects d es) (e : String × α) :
    (names (Dictionary.put e.1 e.2 d)).Pairwise fun a b =>
      (names (es ++ [e])).idxOf a < (names (es ++ [e])).idxOf b := by
  have hplace : ∀ a ∈ names d, (names (es ++ [e])).idxOf a = (names es).idxOf a := by
    intro a ha
    rw [names_append, List.idxOf_append_of_mem ((h.mem a).mp ha)]
  have hold : (names d).Pairwise fun a b =>
      (names (es ++ [e])).idxOf a < (names (es ++ [e])).idxOf b := by
    refine h.order.imp_of_mem fun ha hb hlt => ?_
    rwa [hplace _ ha, hplace _ hb]
  by_cases hm : e.1 ∈ names d
  · rwa [names_put_of_mem hm]
  · rw [names_put_of_not_mem hm, List.pairwise_append]
    refine ⟨hold, List.pairwise_singleton _ _, fun a ha b hb => ?_⟩
    have hlast : (names (es ++ [e])).idxOf e.1 = (names es).length := by
      have hnew : e.1 ∉ names es := fun hmem => hm ((h.mem e.1).mpr hmem)
      rw [names_append, List.idxOf_append_of_notMem hnew, names_cons, List.idxOf_cons_self,
        Nat.add_zero]
    rw [List.mem_singleton.mp hb, hplace a ha, hlast]
    exact List.idxOf_lt_length_of_mem ((h.mem a).mp ha)

/-- One more entry. -/
theorem put (h : Collects d es) (e : String × α) :
    Collects (Dictionary.put e.1 e.2 d) (es ++ [e]) where
  mem := h.mem_put e
  order := h.order_put e
  lookup name := by rw [get?_put, last?_snoc, h.lookup]

/-- Any number of further entries. -/
theorem putAll (h : Collects d es) (more : List (String × α)) :
    Collects (Dictionary.putAll d more) (es ++ more) := by
  induction more generalizing d es with
  | nil => rwa [List.append_nil]
  | cons e rest ih =>
    have hrest := ih (h.put e)
    rwa [List.append_assoc, List.singleton_append] at hrest

end Collects

theorem collects_ofList (es : List (String × α)) : Collects (ofList es) es :=
  Collects.empty.putAll es

/-- Going on with further entries is the same from the entries that were written before and from
what these came to. -/
theorem ofList_append (es more : List (String × α)) :
    ofList (es ++ more) = putAll (ofList es) more :=
  List.foldl_append

theorem ofList_ofList (es : List (String × α)) : ofList (ofList es) = ofList es :=
  ofList_of_nodup (nodup_ofList es)

end Dictionary

namespace Value

open Dictionary

/-- An object that was made of pairs has each of their keys once, in the order in which the keys
came first, and as many as there are different ones. Under a key it has the value of the last pair
with the key, and nothing if there is no such pair. Made again of its own properties it has the same
properties, and made of further pairs after the first ones it has what comes of writing these to its
properties, as if it had been made of the properties to begin with. -/
theorem object_of_pairs (identity : Identity) (pairs : List (String × Value)) :
    ∃ ps, (objectOf identity pairs).properties? = some ps ∧
      ((names ps).Nodup ∧ (∀ key, key ∈ names ps ↔ key ∈ names pairs) ∧
        (names ps).Pairwise fun a b => (names pairs).idxOf a < (names pairs).idxOf b) ∧
      (∀ key, (objectOf identity pairs).member? key = last? key pairs ∧
        (((objectOf identity pairs).member? key).isSome = false ↔ key ∉ names pairs)) ∧
      ps.length = (names pairs).toFinset.card ∧
      ∀ other, (objectOf other ps).properties? = some ps ∧
        ∀ more, (objectOf other (pairs ++ more)).properties? = some (putAll ps more) ∧
          (objectOf other (ps ++ more)).properties? = some (putAll ps more) := by
  have hcollects := collects_ofList pairs
  refine ⟨ofList pairs, rfl, ⟨hcollects.distinct, hcollects.mem, hcollects.order⟩, fun key => ?_,
    hcollects.length_eq, fun other => ⟨?_, fun more => ⟨?_, ?_⟩⟩⟩
  · have hmember : (objectOf identity pairs).member? key = get? key (ofList pairs) := rfl
    refine ⟨hmember.trans (hcollects.lookup key), ?_⟩
    rw [hmember, Option.isSome_eq_false_iff, Option.isNone_iff_eq_none, get?_eq_none_iff,
      hcollects.mem]
  · exact congrArg some (ofList_ofList pairs)
  · exact congrArg some (ofList_append pairs more)
  · have hcontinued : ofList (ofList pairs ++ more) = putAll (ofList pairs) more := by
      rw [ofList_append, ofList_ofList]
    exact congrArg some hcontinued

/-- The second pair with a key changes what the key holds and not where it stands. -/
example (u v w : Value) : (objectOf 0 [("b", u), ("a", v), ("b", w)]).properties? =
    some [("b", w), ("a", v)] := rfl

end Value

end CapabilityGateway
