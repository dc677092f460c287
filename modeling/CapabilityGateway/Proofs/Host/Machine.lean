import CapabilityGateway.Proofs.Host.Alike

/-!
# Transports with a state

A host that performs the operations of a transport itself may let every answer depend on all that
came before. Whatever state a transport has, and however each operation ends and changes it, there
is a host that answers in this way.

* `Transport.Machine`: a transport with a state of its own.
* `World.Implements`: the host answers like the machine from now on.
* `World.implements_host`: every machine, in every state, is implemented by some host.
* `World.Implements.perform`: an operation ends as it does for the machine, and moves it.
-/

namespace CapabilityGateway

/-- The operation of a transport that a call is. -/
def HostCall.performed? : HostCall → Option (Operation × List Value)
  | .performed operation arguments => some (operation, arguments)
  | .reported .. => none

/-- The operations of transports that the host has been asked for, in order. -/
def World.performed (w : World) : List (Operation × List Value) :=
  w.calls.filterMap HostCall.performed?

/-- A transport with a state of its own, which decides how an operation ends and what state comes
next. -/
structure Transport.Machine where
  State : Type
  perform : State → Operation → List Value → Except Fault Value × State

namespace Transport.Machine

/-- The state after some operations. -/
def after (m : Machine) (σ : m.State) (operations : List (Operation × List Value)) : m.State :=
  operations.foldl (fun σ o => (m.perform σ o.1 o.2).2) σ

/-- A host that answers like the machine. -/
def host (m : Machine) (σ : m.State) : World :=
  .initial ⟨0, 0⟩ fun calls call =>
    match call with
    | .performed operation arguments =>
      (m.perform (m.after σ (calls.filterMap HostCall.performed?)) operation arguments).1
    | .reported .. => .ok .undefined

end Transport.Machine

/-- The host performs the operations of the transport itself, and from now on it answers like the
machine, which is in some state now. -/
structure World.Implements (w : World) (transport : Identity) (m : Transport.Machine)
    (σ : m.State) : Prop where
  handlers : ∀ operation, (w.transports transport).handler operation = none
  answers : ∀ later operation arguments,
    w.answer (w.calls ++ later) (.performed operation arguments) =
      (m.perform (m.after σ (later.filterMap HostCall.performed?)) operation arguments).1

/-- The effect leaves the transport alone: the host is not asked for operations, and what it answers
later is what it would have answered. -/
structure World.Spares (transport : Identity) (effect : World → World) : Prop where
  transports : ∀ w, (effect w).transports transport = w.transports transport
  answer : ∀ w, (effect w).answer = w.answer
  calls : ∀ w, ∃ later, (effect w).calls = w.calls ++ later ∧
    later.filterMap HostCall.performed? = []

namespace World

variable {transport : Identity} {m : Transport.Machine} {σ : m.State} {w w' : World}

theorem calls_receive (w : World) (call : HostCall) :
    (w.receive call).2.calls = w.calls ++ [call] := rfl

theorem performed_receive (w : World) (operation : Operation) (arguments : List Value) :
    (w.receive (.performed operation arguments)).2.performed =
      w.performed ++ [(operation, arguments)] :=
  List.filterMap_append

theorem performed_of_alike (h : w.Alike w') : w'.performed = w.performed := by
  rw [performed, h.calls]
  rfl

theorem implements_host (transport : Identity) (m : Transport.Machine) (σ : m.State) :
    (m.host σ).Implements transport m σ :=
  ⟨fun _ => rfl, fun _ _ _ => rfl⟩

/-- Calls move the machine by the operations among them. -/
theorem Implements.after (h : w.Implements transport m σ)
    (htransport : w'.transports transport = w.transports transport) (hanswer : w'.answer = w.answer)
    {later : List HostCall} (hcalls : w'.calls = w.calls ++ later) :
    w'.Implements transport m (m.after σ (later.filterMap HostCall.performed?)) where
  handlers := by
    rw [htransport]
    exact h.handlers
  answers last operation arguments := by
    rw [hanswer, hcalls, List.append_assoc, h.answers, List.filterMap_append,
      Transport.Machine.after, List.foldl_append]
    rfl

theorem Implements.of_alike (h : w.Implements transport m σ) (halike : w.Alike w') :
    w'.Implements transport m σ := by
  have hcalls : w'.calls = w.calls ++ [] := by rw [halike.calls, List.append_nil]
  exact h.after (by rw [halike.transports]) halike.answer hcalls

/-- The host performs an operation by answering it, and the machine moves on. -/
theorem Implements.perform (h : w.Implements transport m σ) (invoke : Invoker)
    (operation : Operation) (arguments : List Value) :
    invoke.perform transport operation arguments w =
        some ((m.perform σ operation arguments).1, (w.receive (.performed operation arguments)).2) ∧
      (w.receive (.performed operation arguments)).2.Implements transport m
        (m.perform σ operation arguments).2 := by
  have hanswer := h.answers [] operation arguments
  rw [List.append_nil] at hanswer
  constructor
  · simp only [Invoker.perform, h.handlers, World.receive, hanswer]
    rfl
  · have hcalls := w.calls_receive (.performed operation arguments)
    generalize hw : (w.receive (.performed operation arguments)).2 = w' at hcalls
    exact h.after (hw ▸ rfl) (hw ▸ rfl) hcalls

theorem Implements.of_spares (h : w.Implements transport m σ) {effect : World → World}
    (heffect : Spares transport effect) :
    (effect w).Implements transport m σ ∧ (effect w).performed = w.performed := by
  obtain ⟨later, hcalls, hlater⟩ := heffect.calls w
  have hleft := h.after (heffect.transports w) (heffect.answer w) hcalls
  rw [hlater] at hleft
  refine ⟨hleft, ?_⟩
  rw [performed, hcalls, List.filterMap_append, hlater, List.append_nil]
  rfl

end World

end CapabilityGateway
