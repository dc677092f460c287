import CapabilityGateway.Host.World
import Mathlib.Logic.Function.Basic

/-!
# Looking up the entries of a bridge

What a bridge holds under a key after the same key, or another one, was registered or unregistered.
As a map from keys to callables it is updated at one place.

* `Bridge.resolve_register`, `Bridge.resolve_unregister`: one change touches one key.
* `Bridge.keys_ascending`, `Bridge.isSome_resolve_iff`: the keys are those that are bound, in order.
* `World.resolve_change`: what a key of a bridge is bound to after the host changed the bridge.
* `World.resolve_change_eq`: the map after a change.
-/

namespace CapabilityGateway

namespace Bridge

theorem find?_insert (key other : String) (f : Callable) (es : Entries) :
    ((insert key f es).find? fun e => e.1 = other) =
      if other = key then some (key, f) else es.find? fun e => e.1 = other := by
  induction es with
  | nil =>
    by_cases h : key = other
    · simp [insert, h]
    · simp [insert, h, Ne.symm h]
  | cons e rest ih =>
    unfold insert
    by_cases h : key = other
    · subst h
      split
      · simp
      · split
        · simp
        · rename_i hne
          have hhead : ¬ e.1 = key := Ne.symm hne
          simpa [hhead] using ih
    · have hother : ¬ other = key := Ne.symm h
      rw [if_neg hother] at ih ⊢
      split
      · simp [h]
      · split
        · rename_i heq
          have hhead : ¬ e.1 = other := heq ▸ h
          simp [h, hhead]
        · simp only [List.find?_cons, ih]

theorem resolve_register (b : Bridge) (key other : String) (f : Callable) :
    (b.register key f).resolve other = if other = key then some f else b.resolve other := by
  unfold resolve register
  rw [find?_insert]
  split <;> rfl

theorem find?_erase (key other : String) (es : Entries) :
    ((erase key es).find? fun e => e.1 = other) =
      if other = key then none else es.find? fun e => e.1 = other := by
  induction es with
  | nil => simp [erase]
  | cons e rest ih =>
    simp only [erase] at ih
    by_cases he : e.1 = key
    · have herased : erase key (e :: rest) = rest.filter fun e => e.1 ≠ key := by
        simp [erase, he]
      rw [herased, ih]
      by_cases hother : other = key
      · rw [if_pos hother, if_pos hother]
      · have hhead : ¬ e.1 = other := fun h => hother (h.symm.trans he)
        simp [hother, hhead]
    · have hkept : erase key (e :: rest) = e :: rest.filter fun e => e.1 ≠ key := by
        simp [erase, he]
      rw [hkept, List.find?_cons, ih]
      by_cases hhead : e.1 = other
      · have hother : ¬ other = key := fun h => he (hhead.trans h)
        simp [hhead, hother]
      · simp [hhead]

theorem resolve_unregister (b : Bridge) (key other : String) :
    (b.unregister key).resolve other = if other = key then none else b.resolve other := by
  unfold resolve unregister
  rw [find?_erase]
  split <;> rfl

theorem resolve_register_eq (b : Bridge) (key : String) (f : Callable) :
    (b.register key f).resolve = Function.update b.resolve key (some f) := by
  funext other
  rw [resolve_register, Function.update_apply]

theorem resolve_unregister_eq (b : Bridge) (key : String) :
    (b.unregister key).resolve = Function.update b.resolve key none := by
  funext other
  rw [resolve_unregister, Function.update_apply]

theorem keys_ascending (b : Bridge) : b.keys.Pairwise (· < ·) :=
  List.pairwise_map.mpr b.ascending

theorem isSome_resolve_iff {b : Bridge} {key : String} :
    (b.resolve key).isSome ↔ key ∈ b.keys := by
  rw [resolve, Option.isSome_map, List.find?_isSome, keys, List.mem_map]
  simp only [decide_eq_true_eq]

/-- What the host does to a bridge. -/
inductive Change where
  /-- Registers a callable that the host has. -/
  | register (key : String) (f : Callable)
  /-- Registers a callable that is made for this. -/
  | registerNew (key : String) (behaviour : Behaviour)
  | unregister (key : String)

def Change.key : Change → String
  | .register key _ | .registerNew key _ | .unregister key => key

/-- What the key is bound to by the change. -/
def Change.now (w : World) : Change → Option Callable
  | .register _ f => some f
  | .registerNew _ behaviour => some (w.newCallable behaviour).1
  | .unregister _ => none

/-- What a key is bound to after a change, if it was bound to `bound` before. -/
def Change.binding (key : String) (bound : Option Behaviour) : Change → Option Behaviour
  | .register k f => if key = k then some f.behaviour else bound
  | .registerNew k b => if key = k then some b else bound
  | .unregister k => if key = k then none else bound

end Bridge

namespace World

/-- A change of a bridge, and the callable that was under its key. -/
def change (w : World) (bridge : Identity) : Bridge.Change → Option Callable × World
  | .register key f => w.register bridge key f
  | .registerNew key behaviour =>
    let (f, w) := w.newCallable behaviour
    w.register bridge key f
  | .unregister key => w.unregister bridge key

theorem bridges_register (w : World) (bridge : Identity) (key : String) (f : Callable) :
    (w.register bridge key f).2.bridges bridge = (w.bridges bridge).register key f :=
  if_pos rfl

theorem bridges_unregister (w : World) (bridge : Identity) (key : String) :
    (w.unregister bridge key).2.bridges bridge = (w.bridges bridge).unregister key :=
  if_pos rfl

theorem bridges_register_of_ne {b bridge : Identity} (h : b ≠ bridge) (w : World) (key : String)
    (f : Callable) : (w.register bridge key f).2.bridges b = w.bridges b :=
  if_neg h

theorem bridges_unregister_of_ne {b bridge : Identity} (h : b ≠ bridge) (w : World)
    (key : String) : (w.unregister bridge key).2.bridges b = w.bridges b :=
  if_neg h

/-- Whatever a bridge holds after an entry was written is this entry, or was there before. -/
theorem of_resolve_register {w : World} {bridge b : Identity} {key k : String} {f g : Callable}
    (h : ((w.register bridge key f).2.bridges b).resolve k = some g) :
    g = f ∨ (w.bridges b).resolve k = some g := by
  by_cases hb : b = bridge
  · rw [hb, bridges_register, Bridge.resolve_register] at h
    split at h
    · exact .inl (Option.some.inj h).symm
    · exact .inr (hb ▸ h)
  · rw [bridges_register_of_ne hb] at h
    exact .inr h

/-- Whatever a bridge holds after an entry was removed was there before. -/
theorem of_resolve_unregister {w : World} {bridge b : Identity} {key k : String} {g : Callable}
    (h : ((w.unregister bridge key).2.bridges b).resolve k = some g) :
    (w.bridges b).resolve k = some g := by
  by_cases hb : b = bridge
  · rw [hb, bridges_unregister, Bridge.resolve_unregister] at h
    split at h
    · cases h
    · exact hb ▸ h
  · rwa [bridges_unregister_of_ne hb] at h

/-- A change binds its own key anew and leaves the others alone. -/
theorem resolve_change (w : World) (bridge : Identity) (c : Bridge.Change) (key : String) :
    (((w.change bridge c).2.bridges bridge).resolve key).map Callable.behaviour =
      c.binding key (((w.bridges bridge).resolve key).map Callable.behaviour) := by
  cases c with
  | register k f =>
    simp only [change, bridges_register, Bridge.resolve_register, Bridge.Change.binding]
    split <;> rfl
  | registerNew k b =>
    simp only [change, bridges_register, Bridge.resolve_register, Bridge.Change.binding]
    split <;> rfl
  | unregister k =>
    simp only [change, bridges_unregister, Bridge.resolve_unregister, Bridge.Change.binding]
    split <;> rfl

/-- A change gives back what the key was bound to. -/
theorem fst_change (w : World) (bridge : Identity) (c : Bridge.Change) :
    (w.change bridge c).1 = (w.bridges bridge).resolve c.key := by
  cases c <;> rfl

theorem resolve_change_eq (w : World) (bridge : Identity) (c : Bridge.Change) :
    ((w.change bridge c).2.bridges bridge).resolve =
      Function.update (w.bridges bridge).resolve c.key (c.now w) := by
  cases c with
  | register key f =>
    rw [change, bridges_register, Bridge.resolve_register_eq]
    rfl
  | registerNew key behaviour =>
    rw [change, bridges_register, Bridge.resolve_register_eq]
    rfl
  | unregister key =>
    rw [change, bridges_unregister, Bridge.resolve_unregister_eq]
    rfl

/-- Changes of a bridge do not reach the host's own code. -/
theorem calls_change (w : World) (bridge : Identity) (c : Bridge.Change) :
    (w.change bridge c).2.calls = w.calls := by
  cases c <;> rfl

end World

end CapabilityGateway
