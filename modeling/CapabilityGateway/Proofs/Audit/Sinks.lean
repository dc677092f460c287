import CapabilityGateway.Proofs.Host.Alike
import CapabilityGateway.Proofs.Namespace.Values
import CapabilityGateway.Proofs.Sandbox.Assembly

/-!
# Values that report to one logger

Calling a value can lead to the sinks of consoles: those that the value writes to itself and those
of everything that it holds or puts into a bridge. Each sink has a logger that hears of lost lines.
A value, a namespace or a host reports to a logger when all these sinks do.

* `Value.ReportsTo`, `Namespace.ReportsTo`, `World.ReportsTo`: all sinks have the logger.
* `Console.reportsTo_create`, `Network.reportsTo_ofTransport`: new capabilities report to the logger
  that they are made with.
-/

namespace CapabilityGateway

mutual

/-- The sinks that the value leads to. -/
def Value.sinks : Value → List Sink
  | .array _ vs => Value.sinksOfAll vs
  | .object _ ps => Value.sinksOfProperties ps
  | .function f => f.sinks
  | _ => []

def Value.sinksOfAll : List Value → List Sink
  | [] => []
  | v :: vs => v.sinks ++ Value.sinksOfAll vs

def Value.sinksOfProperties : List (String × Value) → List Sink
  | [] => []
  | (_, v) :: ps => v.sinks ++ Value.sinksOfProperties ps

def Callable.sinks : Callable → List Sink
  | .mk _ b => b.sinks

def Behaviour.sinks : Behaviour → List Sink
  | .constant v => v.sinks
  | .inTurn vs => Value.sinksOfAll vs
  | .writeEntry _ _ f => f.sinks
  | .exactly _ _ b => b.sinks
  | .write sink => [sink]
  | _ => []

end

/-- All sinks that the value leads to have the logger. -/
def Value.ReportsTo (logger : AuditLogger) (v : Value) : Prop := ∀ s ∈ v.sinks, s.logger = logger

def Callable.ReportsTo (logger : AuditLogger) (f : Callable) : Prop :=
  ∀ s ∈ f.sinks, s.logger = logger

def Behaviour.ReportsTo (logger : AuditLogger) (b : Behaviour) : Prop :=
  ∀ s ∈ b.sinks, s.logger = logger

/-- All values in the namespace report to the logger. -/
def Namespace.ReportsTo (logger : AuditLogger) (g : Namespace) : Prop :=
  g.AllValues (Value.ReportsTo logger)

/-- Whatever calls can find in the bridges and transports of the host reports to the logger. -/
structure World.ReportsTo (logger : AuditLogger) (w : World) : Prop where
  bridges : ∀ bridge key f, (w.bridges bridge).resolve key = some f → f.ReportsTo logger
  transports : ∀ transport operation v,
    (w.transports transport).handler operation = some v → v.ReportsTo logger

variable {logger : AuditLogger}

/-! ## Values -/

theorem Value.sinksOfAll_eq (vs : List Value) : Value.sinksOfAll vs = vs.flatMap Value.sinks := by
  induction vs with
  | nil => rfl
  | cons v rest ih => rw [Value.sinksOfAll, ih, List.flatMap_cons]

theorem Value.sinksOfProperties_eq (ps : List (String × Value)) :
    Value.sinksOfProperties ps = ps.flatMap fun p => p.2.sinks := by
  induction ps with
  | nil => rfl
  | cons p rest ih => rw [Value.sinksOfProperties, ih, List.flatMap_cons]

namespace Value.ReportsTo

theorem of_sinks_eq_nil {v : Value} (h : v.sinks = []) : v.ReportsTo logger := by
  intro s hs
  rw [h] at hs
  cases hs

theorem callable {f : Callable} (h : (Value.function f).ReportsTo logger) : f.ReportsTo logger := by
  intro s hs
  exact h s (by rwa [Value.sinks])

/-- A member of an object leads nowhere that the object does not lead to. -/
theorem member {v u : Value} (h : v.ReportsTo logger) {key : String}
    (hu : v.member? key = some u) : u.ReportsTo logger := by
  cases v with
  | object i ps =>
    intro s hs
    refine h s ?_
    rw [Value.sinks, Value.sinksOfProperties_eq]
    exact List.mem_flatMap.mpr ⟨(key, u), Dictionary.mem_of_get? hu, hs⟩
  | _ => cases hu

end Value.ReportsTo

namespace Behaviour.ReportsTo

theorem inTurn {vs : List Value} (h : (Behaviour.inTurn vs).ReportsTo logger) :
    ∀ v ∈ vs, v.ReportsTo logger := by
  intro v hv s hs
  refine h s ?_
  rw [Behaviour.sinks, Value.sinksOfAll_eq]
  exact List.mem_flatMap.mpr ⟨v, hv, hs⟩

theorem writeEntry {bridge : Identity} {key : String} {f : Callable}
    (h : (Behaviour.writeEntry bridge key f).ReportsTo logger) : f.ReportsTo logger := by
  intro s hs
  exact h s (by rwa [Behaviour.sinks])

theorem exactly {name : String} {count : Nat} {b : Behaviour}
    (h : (Behaviour.exactly name count b).ReportsTo logger) : b.ReportsTo logger := by
  intro s hs
  exact h s (by rwa [Behaviour.sinks])

theorem write {sink : Sink} (h : (Behaviour.write sink).ReportsTo logger) :
    sink.logger = logger :=
  h sink (by simp [Behaviour.sinks])

end Behaviour.ReportsTo

theorem Callable.ReportsTo.behaviour {f : Callable} (h : f.ReportsTo logger) :
    f.behaviour.ReportsTo logger := by
  cases f with
  | mk i b =>
    intro s hs
    exact h s (by rwa [Callable.sinks])

/-! ## New capabilities -/

theorem World.sinks_surfaceFrom (i : Identity) (members : List (String × Behaviour)) :
    (World.surfaceFrom i members).sinks = members.flatMap fun m => m.2.sinks := by
  rw [World.surfaceFrom, Value.sinks, Value.sinksOfProperties_eq]
  induction members generalizing i with
  | nil => rfl
  | cons m rest ih =>
    rw [World.membersFrom, List.flatMap_cons, List.flatMap_cons, Value.sinks, Callable.sinks, ih]

theorem Console.reportsTo_create (sink : Sink) (w : World) :
    (Console.create sink w).1.surface.ReportsTo sink.logger := by
  rw [Console.create_eq]
  intro s hs
  rw [World.sinks_surfaceFrom] at hs
  obtain ⟨m, hm, hs⟩ := List.mem_flatMap.mp hs
  obtain ⟨method, -, rfl⟩ := List.mem_map.mp hm
  rw [Behaviour.sinks] at hs
  rw [List.mem_singleton.mp hs]

theorem Network.reportsTo_ofTransport (logger : AuditLogger) (transport : Identity) (w : World) :
    (Network.ofTransport transport w).1.net.ReportsTo logger ∧
      (Network.ofTransport transport w).1.tls.ReportsTo logger := by
  rw [Network.ofTransport_eq]
  constructor <;> exact .of_sinks_eq_nil (World.sinks_surfaceFrom _ _)

/-! ## The host -/

namespace World.ReportsTo

variable {w : World}

theorem of_alike {w' : World} (h : w.ReportsTo logger) (halike : w.Alike w') :
    w'.ReportsTo logger := by
  constructor
  · rw [halike.bridges]
    exact h.bridges
  · rw [halike.transports]
    exact h.transports

theorem next (h : w.ReportsTo logger) (i : Identity) :
    World.ReportsTo logger { w with next := i } :=
  ⟨h.bridges, h.transports⟩

theorem receive (h : w.ReportsTo logger) (call : HostCall) : (w.receive call).2.ReportsTo logger :=
  ⟨h.bridges, h.transports⟩

theorem register (h : w.ReportsTo logger) (bridge : Identity) (key : String) {f : Callable}
    (hf : f.ReportsTo logger) : (w.register bridge key f).2.ReportsTo logger := by
  refine ⟨fun b k g hg => ?_, h.transports⟩
  rcases of_resolve_register hg with rfl | hg
  · exact hf
  · exact h.bridges b k g hg

theorem unregister (h : w.ReportsTo logger) (bridge : Identity) (key : String) :
    (w.unregister bridge key).2.ReportsTo logger :=
  ⟨fun b k g hg => h.bridges b k g (of_resolve_unregister hg), h.transports⟩

end World.ReportsTo

end CapabilityGateway
