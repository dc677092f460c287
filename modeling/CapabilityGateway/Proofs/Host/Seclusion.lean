import CapabilityGateway.Proofs.Host.Alike
import Mathlib.Data.Set.Basic

/-!
# What does not reach a transport

A callable reaches a transport when it performs one of its operations, and a value when it has been
made of such callables. A host can keep a transport to itself: then neither its bridges nor its
other transports nor its answers reach it. Whatever is called in such a host without reaching the
transport from the start has no part in it. The transport could be any other, and every call would
end as it does.

* `Value.Reaches`: the value leads to the transport, and not by way of what is granted.
* `World.Secluded`: nothing in the host reaches the transport.
* `Invoker.callEach_plug`: calls that do not reach a secluded transport do not depend on it, and
  nothing that they give back reaches it.
-/

namespace CapabilityGateway

mutual

/-- The value leads to the transport. Callables that are granted do not count. -/
inductive Value.Reaches (transport : Identity) (granted : Set Callable) : Value → Prop where
  | element {i : Identity} {vs : List Value} {v : Value} (hv : v ∈ vs)
      (h : Value.Reaches transport granted v) : Value.Reaches transport granted (.array i vs)
  | property {i : Identity} {ps : List (String × Value)} {key : String} {v : Value}
      (hv : (key, v) ∈ ps) (h : Value.Reaches transport granted v) :
      Value.Reaches transport granted (.object i ps)
  | callable {f : Callable} (hf : f ∉ granted)
      (h : Behaviour.Reaches transport granted f.behaviour) :
      Value.Reaches transport granted (.function f)

/-- The behaviour leads to the transport: it performs an operation of it, or has a part that leads
there. -/
inductive Behaviour.Reaches (transport : Identity) (granted : Set Callable) : Behaviour → Prop where
  | relay (operation : Operation) :
      Behaviour.Reaches transport granted (.relay transport operation)
  | constant {v : Value} (h : Value.Reaches transport granted v) :
      Behaviour.Reaches transport granted (.constant v)
  | inTurn {vs : List Value} {v : Value} (hv : v ∈ vs) (h : Value.Reaches transport granted v) :
      Behaviour.Reaches transport granted (.inTurn vs)
  | writeEntry {bridge : Identity} {key : String} {f : Callable}
      (h : Value.Reaches transport granted (.function f)) :
      Behaviour.Reaches transport granted (.writeEntry bridge key f)
  | exactly {name : String} {count : Nat} {b : Behaviour}
      (h : Behaviour.Reaches transport granted b) :
      Behaviour.Reaches transport granted (.exactly name count b)

end

/-- The host keeps the transport to itself. -/
structure World.Secluded (transport : Identity) (w : World) : Prop where
  bridges : ∀ bridge key f, (w.bridges bridge).resolve key = some f →
    ¬ f.behaviour.Reaches transport ∅
  transports : ∀ other operation v, other ≠ transport →
    (w.transports other).handler operation = some v → ¬ v.Reaches transport ∅
  answers : ∀ calls call v, w.answer calls call = .ok v → ¬ v.Reaches transport ∅

/-- The world with another transport in the place of one. -/
def World.plug (w : World) (transport : Identity) (t : Transport) : World :=
  { w with transports := World.replace w.transports transport t }

variable {transport : Identity} {t : Transport} {w : World}

theorem Value.reaches_function {f : Callable} :
    (Value.function f).Reaches transport ∅ ↔ f.behaviour.Reaches transport ∅ :=
  ⟨fun h => by cases h with | callable _ h => exact h, .callable (Set.notMem_empty f)⟩

theorem Value.not_reaches_of_plain {granted : Set Callable} {v : Value}
    (h : v.typeName ∉ ["array", "object", "function"]) : ¬ v.Reaches transport granted := by
  intro hreaches
  cases hreaches <;> simp [Value.typeName] at h

namespace World.Secluded

theorem of_alike {w' : World} (h : w.Secluded transport) (halike : w.Alike w') :
    w'.Secluded transport := by
  constructor
  · rw [halike.bridges]
    exact h.bridges
  · rw [halike.transports]
    exact h.transports
  · rw [halike.answer]
    exact h.answers

theorem register (h : w.Secluded transport) (bridge : Identity) (key : String) {f : Callable}
    (hf : ¬ f.behaviour.Reaches transport ∅) :
    (w.register bridge key f).2.Secluded transport := by
  refine ⟨fun b k g hg => ?_, h.transports, h.answers⟩
  rcases of_resolve_register hg with rfl | hg
  · exact hf
  · exact h.bridges b k g hg

theorem unregister (h : w.Secluded transport) (bridge : Identity) (key : String) :
    (w.unregister bridge key).2.Secluded transport :=
  ⟨fun b k g hg => h.bridges b k g (of_resolve_unregister hg), h.transports, h.answers⟩

theorem handler_plug {other : Identity} {operation : Operation}
    (h : ¬ (Behaviour.relay other operation).Reaches transport ∅) (t : Transport) :
    ((w.plug transport t).transports other).handler operation =
      (w.transports other).handler operation := by
  have hne : other ≠ transport := by
    rintro rfl
    exact h (.relay operation)
  simp only [plug, replace, if_neg hne]

/-- A secluded world and the same with another transport. Nothing that reaches the transport may
come up in either. -/
def coupling (transport : Identity) (t : Transport) : Coupling where
  worlds w w' := w' = w.plug transport t ∧ w.Secluded transport
  behaviours b := ¬ b.Reaches transport ∅
  values v := ¬ v.Reaches transport ∅
  plain v hv := Value.not_reaches_of_plain hv
  array i vs hvs hreaches := by
    cases hreaches with
    | element hv h => exact hvs _ hv h
  constant v hb hv := hb (.constant hv)
  inTurn vs hb f hf hreaches := hb (.inTurn hf (Value.reaches_function.mpr hreaches))
  exactly name count b hb hreaches := hb (.exactly hreaches)
  fresh := by
    rintro w _ ⟨rfl, hw⟩
    exact ⟨rfl, rfl, hw.bridges, hw.transports, hw.answers⟩
  receive := by
    rintro w _ call ⟨rfl, hw⟩
    exact ⟨rfl, rfl, hw.bridges, hw.transports, hw.answers⟩
  received w _ call v hw := hw.2.answers w.calls call v
  resolve := by
    rintro w _ bridge key ⟨rfl, -⟩
    rfl
  resolved w _ bridge key f hw := hw.2.bridges bridge key f
  register := by
    rintro w _ bridge key f hf ⟨rfl, hw⟩
    refine ⟨rfl, rfl, hw.register bridge key fun hreaches => hf (.writeEntry ?_)⟩
    exact Value.reaches_function.mpr hreaches
  unregister := by
    rintro w _ bridge key ⟨rfl, hw⟩
    exact ⟨rfl, rfl, hw.unregister bridge key⟩
  handler := by
    rintro w _ other operation hb ⟨rfl, -⟩
    exact handler_plug hb t
  handled := by
    intro w _ other operation f hb hw hf hreaches
    have hne : other ≠ transport := by
      rintro rfl
      exact hb (.relay operation)
    exact hw.2.transports other operation _ hne hf (Value.reaches_function.mpr hreaches)
  loseLine := by
    rintro w _ sink - ⟨rfl, hw⟩
    refine ⟨?_, hw.of_alike (.loseLine w sink.logger)⟩
    cases sink.logger <;> rfl

end World.Secluded

/-! ## Calls one after another -/

/-- Calls values, each with its own arguments, whatever becomes of the calls before. -/
def Invoker.callEach (invoke : Invoker) :
    List (Value × List Value) → World → Option (List (Except Fault Value) × World)
  | [], w => some ([], w)
  | (v, arguments) :: rest, w =>
    match invoke.call v arguments w with
    | some (r, w) => (callEach invoke rest w).map fun p => (r :: p.1, p.2)
    | none => none

/-- The call reaches the transport neither by what is called nor by an argument. -/
def Value.CallAvoids (transport : Identity) (call : Value × List Value) : Prop :=
  ¬ call.1.Reaches transport ∅ ∧ ∀ v ∈ call.2, ¬ v.Reaches transport ∅

theorem Invoker.call_plug (hw : w.Secluded transport) {call : Value × List Value}
    (hcall : Value.CallAvoids transport call) (depth : Nat) (t : Transport) :
    (World.Secluded.coupling transport t).Ends (fun v => ¬ v.Reaches transport ∅)
      (Invoker.call (Callable.invoke depth) call.1 call.2 w)
      (Invoker.call (Callable.invoke depth) call.1 call.2 (w.plug transport t)) := by
  refine ((World.Secluded.coupling transport t).invoke depth).call ?_ hcall.2 ⟨rfl, hw⟩
  intro f hf hreaches
  exact hcall.1 (hf ▸ Value.reaches_function.mpr hreaches)

/-- Calls that avoid a secluded transport end in the same way with any other in its place. They
leave it secluded, and nothing that they give back reaches it. So a guest that has no way to the
transport does not find one. -/
theorem Invoker.callEach_plug (hw : w.Secluded transport) {calls : List (Value × List Value)}
    (hcalls : ∀ call ∈ calls, Value.CallAvoids transport call) (depth : Nat) (t : Transport) :
    Invoker.callEach (Callable.invoke depth) calls (w.plug transport t) =
        (Invoker.callEach (Callable.invoke depth) calls w).map
          (fun p => (p.1, p.2.plug transport t)) ∧
      ∀ results w', Invoker.callEach (Callable.invoke depth) calls w = some (results, w') →
        w'.Secluded transport ∧ ∀ v, .ok v ∈ results → ¬ v.Reaches transport ∅ := by
  induction calls generalizing w with
  | nil =>
    refine ⟨rfl, ?_⟩
    rintro _ _ ⟨⟩
    exact ⟨hw, fun v hv => absurd hv List.not_mem_nil⟩
  | cons call rest ih =>
    obtain ⟨hhead, hrest⟩ := List.forall_mem_cons.mp hcalls
    have hends := call_plug hw hhead depth t
    simp only [callEach]
    generalize Invoker.call (Callable.invoke depth) call.1 call.2 w = o at hends ⊢
    generalize Invoker.call (Callable.invoke depth) call.1 call.2 (w.plug transport t) = o'
      at hends ⊢
    cases hends with
    | unfinished => exact ⟨rfl, fun _ _ h => by cases h⟩
    | @finished r w₁ w₁' hr hworlds =>
      obtain ⟨rfl, hw₁⟩ := hworlds
      obtain ⟨hplug, hleft⟩ := ih hw₁ hrest
      simp only [hplug, Option.map_map]
      refine ⟨rfl, fun results w' h => ?_⟩
      obtain ⟨⟨later, w₂⟩, hlater, heq⟩ := Option.map_eq_some_iff.mp h
      cases heq
      obtain ⟨hsecluded, hvalues⟩ := hleft _ _ hlater
      refine ⟨hsecluded, fun v hv => ?_⟩
      rcases List.mem_cons.mp hv with hv | hv
      · exact hr v hv.symm
      · exact hvalues v hv

end CapabilityGateway
