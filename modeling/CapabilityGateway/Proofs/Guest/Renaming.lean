import CapabilityGateway.Proofs.Namespace.Edit
import Mathlib.Logic.Function.Basic

/-!
# Renaming identities

Identities only tell things apart, so nothing that a guest does with its namespace depends on which
numbers they are: when every identity is renamed and no two are renamed to the same, the answers and
the namespace that is left are the renamed ones.

* `Value.same_rename`: renamed values are the same exactly when the values are.
* `Namespace.Edit.perform_rename`: a renamed edit of a renamed namespace.
-/

namespace CapabilityGateway

def AuditLogger.rename (f : Identity → Identity) : AuditLogger → AuditLogger
  | .silent => .silent
  | .keeping log => .keeping (f log)
  | .tracing => .tracing

def SinkMode.rename (f : Identity → Identity) : SinkMode → SinkMode
  | .discard => .discard
  | .forward bridge => .forward (f bridge)

def Sink.rename (f : Identity → Identity) (s : Sink) : Sink := ⟨s.mode.rename f, s.logger.rename f⟩

mutual

/-- The value with all its identities renamed, those of what it contains included. -/
def Value.rename (f : Identity → Identity) : Value → Value
  | .undefined => .undefined
  | .null => .null
  | .bool b => .bool b
  | .number n => .number n
  | .string s => .string s
  | .array i vs => .array (f i) (Value.renameAll f vs)
  | .object i ps => .object (f i) (Value.renameProperties f ps)
  | .function c => .function (c.rename f)

def Value.renameAll (f : Identity → Identity) : List Value → List Value
  | [] => []
  | v :: vs => v.rename f :: Value.renameAll f vs

def Value.renameProperties (f : Identity → Identity) :
    List (String × Value) → List (String × Value)
  | [] => []
  | (key, v) :: ps => (key, v.rename f) :: Value.renameProperties f ps

def Callable.rename (f : Identity → Identity) : Callable → Callable
  | .mk i b => .mk (f i) (b.rename f)

def Behaviour.rename (f : Identity → Identity) : Behaviour → Behaviour
  | .nothing => .nothing
  | .constant v => .constant (v.rename f)
  | .collect => .collect
  | .firstArgument => .firstArgument
  | .countArguments => .countArguments
  | .report tag => .report tag
  | .fail fault => .fail fault
  | .inTurn vs => .inTurn (Value.renameAll f vs)
  | .callEntry bridge key => .callEntry (f bridge) key
  | .writeEntry bridge key c => .writeEntry (f bridge) key (c.rename f)
  | .removeEntry bridge key => .removeEntry (f bridge) key
  | .exactly name count b => .exactly name count (b.rename f)
  | .write sink => .write (sink.rename f)
  | .relay transport operation => .relay (f transport) operation

end

variable {f : Identity → Identity}

namespace Value

theorem renameProperties_eq (ps : List (String × Value)) :
    renameProperties f ps = Dictionary.mapValues (rename f) ps := by
  induction ps with
  | nil => rfl
  | cons p rest ih => rw [renameProperties, ih]; rfl

theorem member?_rename (v : Value) (key : String) :
    (v.rename f).member? key = (v.member? key).map (rename f) := by
  cases v with
  | object i ps =>
    show Dictionary.get? key (renameProperties f ps) = _
    rw [renameProperties_eq, Dictionary.get?_mapValues]
    rfl
  | _ => rfl

theorem identity_rename (c : Callable) : (c.rename f).identity = f c.identity := by
  cases c
  rfl

/-- Sameness asks whether identities agree, and for no more of them than that. -/
theorem same_rename (hf : Function.Injective f) (u v : Value) :
    (u.rename f).same (v.rename f) = u.same v := by
  have hbeq : ∀ i j : Identity, (f i == f j) = (i == j) := by
    intro i j
    rw [Bool.eq_iff_iff, beq_iff_eq, beq_iff_eq, hf.eq_iff]
  cases u <;> cases v <;> simp only [rename, same, eq, identity_rename, hbeq]

end Value

def Property.rename (f : Identity → Identity) (p : Property) : Property :=
  ⟨p.value.rename f, p.attributes⟩

theorem Property.identical_rename (hf : Function.Injective f) (p q : Property) :
    (p.rename f).identical (q.rename f) = p.identical q :=
  congrArg (decide (p.attributes = q.attributes) && ·) (Value.same_rename hf p.value q.value)

namespace Namespace

/-- The namespace with its values renamed. The names are texts and stay. -/
def rename (f : Identity → Identity) (g : Namespace) : Namespace :=
  ⟨Dictionary.mapValues (Property.rename f) g.entries, by
    rw [Dictionary.names_mapValues]
    exact g.nodup⟩

/-! ## Reading -/

theorem property?_rename (g : Namespace) (name : String) :
    (g.rename f).property? name = (g.property? name).map (Property.rename f) :=
  Dictionary.get?_mapValues _ _ _

theorem resolve_rename (g : Namespace) (name : String) :
    (g.rename f).resolve name = (g.resolve name).map (Value.rename f) := by
  unfold resolve get?
  rw [property?_rename]
  cases g.property? name <;> rfl

theorem names_rename (g : Namespace) : (g.rename f).names = g.names :=
  Dictionary.names_mapValues _ _

theorem keys_rename (g : Namespace) : (g.rename f).keys = g.keys := by
  unfold keys rename Dictionary.mapValues
  simp only [List.filter_map, Dictionary.names, List.map_map]
  rfl

/-! ## Writing -/

theorem write_rename (g : Namespace) (name : String) (p : Property) :
    (g.rename f).write name (p.rename f) = (g.write name p).rename f :=
  eq_of_entries (Dictionary.put_mapValues _ _ _ _)

theorem erase_rename (g : Namespace) (name : String) :
    (g.rename f).erase name = (g.erase name).rename f :=
  eq_of_entries (Dictionary.erase_mapValues _ _ _)

theorem mayDefine_rename (hf : Function.Injective f) (g : Namespace) (name : String)
    (p : Property) : (g.rename f).mayDefine name (p.rename f) = g.mayDefine name p := by
  unfold mayDefine
  rw [property?_rename]
  cases g.property? name with
  | none => rfl
  | some q => simp only [Option.map_some, Property.identical_rename hf]; rfl

namespace Edit

def rename (f : Identity → Identity) : Edit → Edit
  | .define name p => .define name (p.rename f)
  | .set name v => .set name (v.rename f)
  | .delete name => .delete name

/-- A renamed edit of a renamed namespace ends in the same way and leaves the renamed namespace. -/
theorem perform_rename (hf : Function.Injective f) (g : Namespace) (e : Edit) :
    (e.rename f).perform (g.rename f) = ((e.perform g).1, (e.perform g).2.rename f) := by
  cases e with
  | define name p =>
    simp only [rename, perform, Namespace.define, mayDefine_rename hf, write_rename]
    cases g.mayDefine name p <;> simp
  | set name v =>
    simp only [rename, perform, Namespace.set, property?_rename]
    cases g.property? name with
    | none => exact congrArg _ (write_rename g name ⟨v, .ordinary⟩)
    | some p =>
      cases hw : p.attributes.writable with
      | false => simp [Property.rename, hw]
      | true =>
        have hwrite := write_rename (f := f) g name ⟨v, p.attributes⟩
        simpa [Property.rename, hw] using hwrite
  | delete name =>
    simp only [rename, perform, Namespace.delete, property?_rename]
    cases g.property? name with
    | none => rfl
    | some p =>
      cases hc : p.attributes.configurable with
      | false => simp [Property.rename, hc]
      | true => simp [Property.rename, hc, erase_rename]

end Edit

end Namespace

end CapabilityGateway
