import CapabilityGateway.Text.CodePoints

/-!
# Blanks

The characters with the property White_Space, and trimming a text of them at both ends.
-/

namespace CapabilityGateway

namespace Text

/-- Characters with the property White_Space. -/
def whiteSpace : CodePoints := [
    (0x9, 0xD), (0x20, 0x20), (0x85, 0x85), (0xA0, 0xA0), (0x1680, 0x1680), (0x2000, 0x200A),
    (0x2028, 0x2029), (0x202F, 0x202F), (0x205F, 0x205F), (0x3000, 0x3000)]

def isBlank (c : Char) : Bool := whiteSpace.contains c

/-- The text without the blanks at its two ends. -/
def trim (s : List Char) : List Char :=
  ((s.dropWhile isBlank).reverse.dropWhile isBlank).reverse

end Text

end CapabilityGateway
