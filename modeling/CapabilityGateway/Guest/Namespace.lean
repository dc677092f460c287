import CapabilityGateway.Guest.Display
import CapabilityGateway.Guest.Equality

/-!
# Global namespaces

The names that guest code can use, in the order in which they were created. Each is bound to a value
with three attributes: enumerable names are listed, writable ones can be assigned to, configurable
ones can be removed or redefined.

A name that is not configurable can only be redefined as what it already is. `Property.identical`
says when that is the case, and `Namespace.mayDefine` is the rule that `Namespace.define` follows.

No name is bound twice: the names of a namespace are distinct, and every operation keeps that.
-/

namespace CapabilityGateway

structure Attributes where
  enumerable : Bool
  writable : Bool
  configurable : Bool
  deriving DecidableEq

namespace Attributes

/-- What plain assignment gives to a new name. -/
def ordinary : Attributes := ⟨true, true, true⟩

/-- What an installed capability gets: not listed, not to be changed, not to be removed. -/
def fixedHidden : Attributes := ⟨false, false, false⟩

end Attributes

/-- What a name is bound to. -/
structure Property where
  value : Value
  attributes : Attributes

namespace Property

/-- The two cannot be told apart: the attributes agree and the values are the same. -/
def identical (p q : Property) : Bool :=
  decide (p.attributes = q.attributes) && p.value.same q.value

def fixedHidden (v : Value) : Property := ⟨v, .fixedHidden⟩

/-- A property for inspection. -/
def inspect (p : Property) : String :=
  Inspect.record "PropertyDescriptor"
    [("value", p.value.inspect),
     ("attributes", Inspect.record "PropertyAttributes"
       [("enumerable", Inspect.bool p.attributes.enumerable),
        ("writable", Inspect.bool p.attributes.writable),
        ("configurable", Inspect.bool p.attributes.configurable)])]

end Property

structure Namespace where
  entries : Dictionary Property
  nodup : (Dictionary.names entries).Nodup

namespace Namespace

def empty : Namespace := ⟨[], List.nodup_nil⟩

/-! ## Reading -/

/-- Every name, in order. -/
def names (g : Namespace) : List String := Dictionary.names g.entries

/-- The names that are listed, in order. -/
def keys (g : Namespace) : List String :=
  Dictionary.names (g.entries.filter fun e => e.2.attributes.enumerable)

def size (g : Namespace) : Nat := g.entries.length

def property? (g : Namespace) (name : String) : Option Property := Dictionary.get? name g.entries

def get? (g : Namespace) (name : String) : Option Value := (g.property? name).map (·.value)

def has (g : Namespace) (name : String) : Bool := (g.property? name).isSome

/-- The value of a free name in guest code. -/
def resolve (g : Namespace) (name : String) : Except Fault Value :=
  match g.get? name with
  | some v => .ok v
  | none => .error (.undefinedVariable name)

/-! ## Writing -/

/-- The namespace with a name bound anew, in its old place if it has one. -/
def write (g : Namespace) (name : String) (p : Property) : Namespace :=
  ⟨Dictionary.put name p g.entries, Dictionary.nodup_put g.nodup name p⟩

/-- Defining the name as `p` is allowed: it is new, or configurable, or already what it is to
become. -/
def mayDefine (g : Namespace) (name : String) (p : Property) : Bool :=
  match g.property? name with
  | some q => q.attributes.configurable || q.identical p
  | none => true

/-- The fault of defining a name as `p`, if it is one. -/
def checkDefine (g : Namespace) (name : String) (p : Property) : Except Fault Unit :=
  if g.mayDefine name p then .ok () else .error (.notConfigurable name)

/-- Definition of a name. -/
def define (g : Namespace) (name : String) (p : Property) : Except Fault Namespace :=
  if g.mayDefine name p then .ok (g.write name p) else .error (.notConfigurable name)

/-- Assignment by the guest. A new name becomes an ordinary one. -/
def set (g : Namespace) (name : String) (v : Value) : Except Fault Namespace :=
  match g.property? name with
  | some p =>
    if p.attributes.writable then .ok (g.write name ⟨v, p.attributes⟩)
    else .error (.readOnlyBinding name)
  | none => .ok (g.write name ⟨v, .ordinary⟩)

/-- The namespace without a name. -/
def erase (g : Namespace) (name : String) : Namespace :=
  ⟨Dictionary.erase name g.entries, Dictionary.nodup_erase g.nodup name⟩

/-- Removal by the guest: whether there was something to remove, and what is left. -/
def delete (g : Namespace) (name : String) : Except Fault (Bool × Namespace) :=
  match g.property? name with
  | some p =>
    if p.attributes.configurable then .ok (true, g.erase name)
    else .error (.notConfigurable name)
  | none => .ok (false, g)

/-! ## Showing -/

/-- A namespace for inspection. -/
def inspect (g : Namespace) : String :=
  Inspect.record "GlobalNamespace"
    [("properties", Inspect.sequence
      (g.entries.map fun e => "(" ++ Text.quoted e.1 ++ ", " ++ e.2.inspect ++ ")"))]

end Namespace

end CapabilityGateway
