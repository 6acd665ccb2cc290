import ContentSchema.Decimal.Layout
import ContentSchema.Document
import ContentSchema.Text.Literal

/-!
# The spread text of a document

Every element and every member has a line of its own, two blanks further right
than the container; an empty container stays on one line.
-/

namespace ContentSchema.Document

open Text (literal)

/-- The start of a line inside so many containers. -/
def lineStart (depth : Nat) : String :=
  "\n" ++ String.ofList (List.replicate (2 * depth) ' ')

/-- A container with its parts on lines of their own. -/
def spread (opening closing : String) (depth : Nat) (parts : List String) : String :=
  if parts.isEmpty then opening ++ closing
  else
    opening ++ String.intercalate "," (parts.map fun part => lineStart (depth + 1) ++ part)
      ++ lineStart depth ++ closing

mutual

/-- A document in spread form inside so many containers. -/
def prettyWithin (depth : Nat) : Document → String
  | .null => "null"
  | .boolean value => if value then "true" else "false"
  | .integer value => toString value
  | .float value => value.text
  | .string text => literal text
  | .array elements => spread "[" "]" depth (prettyElements (depth + 1) elements)
  | .object members => spread "\x7b" "\x7d" depth (prettyMembers (depth + 1) members)

/-- The elements of an array in spread form. -/
def prettyElements (depth : Nat) : List Document → List String
  | [] => []
  | element :: rest => prettyWithin depth element :: prettyElements depth rest

/-- The members of an object in spread form. -/
def prettyMembers (depth : Nat) : List (String × Document) → List String
  | [] => []
  | (key, value) :: rest =>
    (literal key ++ ": " ++ prettyWithin depth value) :: prettyMembers depth rest

end

/-- A document in spread form. -/
def pretty (document : Document) : String :=
  prettyWithin 0 document

end ContentSchema.Document
