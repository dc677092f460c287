import CapabilityGateway.Text.Blank
import CapabilityGateway.Text.LowerCase

/-!
# Console modes and switches in writing

A console mode is written as a word, whatever the case of its letters and whatever the blanks around
it. A switch is on when it is written as one of three words, whatever the case of the letters but
without blanks.
-/

namespace CapabilityGateway

/-- What becomes of console output. -/
inductive ConsoleMode where
  | discard
  | forward
  deriving DecidableEq

namespace ConsoleMode

def word : ConsoleMode → String
  | .discard => "discard"
  | .forward => "forward"

def inspect : ConsoleMode → String
  | .discard => "Discard"
  | .forward => "Forward"

/-- A text as a mode is compared: without blanks around it, in lower case. -/
def normalized (s : String) : String := String.ofList (Text.lower (Text.trim s.toList))

/-- The mode that a text names. -/
def ofText? (s : String) : Option ConsoleMode :=
  if normalized s = "discard" then some .discard
  else if normalized s = "forward" then some .forward
  else none

end ConsoleMode

/-- The text switches something on. -/
def isSwitchedOn (s : String) : Bool :=
  ["true", "1", "yes"].contains (String.ofList (Text.lower s.toList))

end CapabilityGateway
