import CapabilityGateway.Dictionary
import CapabilityGateway.Guest.Fault
import CapabilityGateway.Host.Reference
import CapabilityGateway.Number.Binary64

/-!
# Guest values

The values that pass between the host and a guest. Arrays, objects and callables carry the identity
they got when they were made; copies share it. Objects are frozen: their properties are fixed when
they are made, in the order in which the keys were first given.

What a callable does is part of it, as a `Behaviour`. A behaviour is data: it says which reaction
the host shows to a call, and `Callable.invoke` carries it out.
-/

namespace CapabilityGateway

mutual

inductive Value where
  | undefined
  | null
  | bool (b : Bool)
  | number (n : Binary64)
  | string (s : String)
  | array (identity : Identity) (elements : List Value)
  | object (identity : Identity) (properties : List (String × Value))
  | function (f : Callable)

/-- A host function as guests see it. -/
inductive Callable where
  | mk (identity : Identity) (behaviour : Behaviour)

/-- The reaction to a call. -/
inductive Behaviour where
  /-- Does nothing and answers undefined. -/
  | nothing
  /-- Answers always the same value. -/
  | constant (v : Value)
  /-- Answers a new array of the arguments. -/
  | collect
  /-- Answers the first argument, or undefined. -/
  | firstArgument
  /-- Answers the number of arguments. -/
  | countArguments
  /-- Reports the call to the host under a tag, and answers what the host answers. -/
  | report (tag : String)
  | fail (fault : Fault)
  /-- Calls each value with the same arguments up to the first fault, and answers the last
  result. -/
  | inTurn (values : List Value)
  /-- Calls the entry of a bridge. -/
  | callEntry (bridge : Identity) (key : String)
  /-- Writes an entry of a bridge, and answers whether there was one before. -/
  | writeEntry (bridge : Identity) (key : String) (f : Callable)
  /-- Removes an entry of a bridge, and answers whether there was one. -/
  | removeEntry (bridge : Identity) (key : String)
  /-- Refuses calls with any other number of arguments. -/
  | exactly (name : String) (count : Nat) (behaviour : Behaviour)
  /-- Writes the arguments to a console's sink. -/
  | write (sink : Sink)
  /-- Performs an operation of a transport. -/
  | relay (transport : Identity) (operation : Operation)

end

namespace Callable

def identity : Callable → Identity
  | .mk i _ => i

def behaviour : Callable → Behaviour
  | .mk _ b => b

end Callable

namespace Value

/-- The word for the kind of a value. -/
def typeName : Value → String
  | .undefined => "undefined"
  | .null => "null"
  | .bool _ => "bool"
  | .number _ => "number"
  | .string _ => "string"
  | .array .. => "array"
  | .object .. => "object"
  | .function _ => "function"

/-- The text of a string. -/
def text? : Value → Option String
  | .string s => some s
  | _ => none

/-- The properties of an object. -/
def properties? : Value → Option (Dictionary Value)
  | .object _ ps => some ps
  | _ => none

/-- The property of an object under a key. -/
def member? (v : Value) (key : String) : Option Value :=
  match v.properties? with
  | some ps => Dictionary.get? key ps
  | none => none

/-- A new object with some properties. A repeated key keeps its first place and takes its last
value. -/
def objectOf (identity : Identity) (properties : List (String × Value)) : Value :=
  .object identity (Dictionary.ofList properties)

/-- The fault of calling something that is not a function. -/
def notCallable (v : Value) : Fault := .typeError (v.typeName ++ " is not a function")

end Value

end CapabilityGateway
