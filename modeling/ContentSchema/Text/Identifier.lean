import ContentSchema.Text.Alphabetic
import ContentSchema.Text.Numeric

/-!
# TypeScript identifiers

A text can stand unquoted as a constant's name when it starts with a letter,
`_` or `$`, goes on with those and numbers, and is not a word that the language
keeps for itself.
-/

namespace ContentSchema.Text

/-- The words that cannot name a constant, those of strict and module code included. -/
def reservedWords : List String :=
  [ "break", "case", "catch", "class", "const", "continue", "debugger", "default",
    "delete", "do", "else", "enum", "export", "extends", "false", "finally", "for",
    "function", "if", "import", "in", "instanceof", "new", "null", "return", "super",
    "switch", "this", "throw", "true", "try", "typeof", "var", "void", "while", "with",
    "implements", "interface", "let", "package", "private", "protected", "public",
    "static", "yield", "await", "arguments", "eval" ]

/-- The two marks that an identifier may hold anywhere. -/
def isIdentifierMark (character : Char) : Bool :=
  character == '_' || character == '$'

/-- The characters that an identifier may start with. -/
def isIdentifierStart (character : Char) : Bool :=
  isAlphabetic character || isIdentifierMark character

/-- The characters that an identifier may go on with. -/
def isIdentifierPart (character : Char) : Bool :=
  isAlphabetic character || isNumeric character || isIdentifierMark character

/-- The shape of an identifier: a start, then parts. -/
def hasIdentifierShape (text : String) : Bool :=
  match text.toList with
  | [] => false
  | first :: rest => isIdentifierStart first && rest.all isIdentifierPart

/-- A text is reserved when it is one of the reserved words. -/
def isReservedWord (text : String) : Bool :=
  reservedWords.contains text

/-- An identifier has the shape of one and is not reserved. -/
def isIdentifier (text : String) : Bool :=
  hasIdentifierShape text && !isReservedWord text

end ContentSchema.Text
