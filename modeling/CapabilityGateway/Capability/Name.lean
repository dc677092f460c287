/-!
# Capability names

A capability is reached by its name alone, so the name has to be an identifier that is not a word of
the language.
-/

namespace CapabilityGateway

namespace CapabilityName

/-- Words that guest code cannot use as identifiers. -/
def reservedWords : List String := [
  "await", "break", "case", "catch", "class", "const", "continue", "debugger", "default",
  "delete", "do", "else", "enum", "export", "extends", "false", "finally", "for", "function",
  "if", "implements", "import", "in", "instanceof", "interface", "let", "new", "null",
  "package", "private", "protected", "public", "return", "static", "super", "switch", "this",
  "throw", "true", "try", "typeof", "var", "void", "while", "with", "yield"]

/-- An identifier can start with the character: an ASCII letter, an underscore or a dollar sign. -/
def isHead (c : Char) : Bool := c.isAlpha || c == '_' || c == '$'

/-- An identifier can go on with the character. -/
def isTail (c : Char) : Bool := isHead c || c.isDigit

def isValid (name : String) : Bool :=
  match name.toList with
  | [] => false
  | c :: cs => isHead c && cs.all isTail && !reservedWords.contains name

end CapabilityName

end CapabilityGateway
