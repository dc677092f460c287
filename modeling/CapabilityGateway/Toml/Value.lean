import CapabilityGateway.Dictionary
import CapabilityGateway.Number.Binary64

/-!
# TOML values

What a TOML document says: a table, whose entries are in the order of the document. The parts of a
date or time are not kept, since no setting is one.
-/

namespace CapabilityGateway

namespace Toml

inductive Value where
  | string (s : String)
  | integer (n : Int)
  | float (x : Binary64)
  | boolean (b : Bool)
  | datetime
  | array (elements : List Value)
  | table (entries : List (String × Value))

/-- The entries of a table. -/
abbrev Table := Dictionary Value

end Toml

end CapabilityGateway
