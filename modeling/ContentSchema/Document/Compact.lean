import ContentSchema.Decimal.Layout
import ContentSchema.Document
import ContentSchema.Text.Literal

/-!
# The compact text of a document

One line without blanks: members in key order, texts as literals, whole numbers
in decimal, doubles by their shortest digits.
-/

namespace ContentSchema.Document

open Text (literal)

mutual

/-- A document in compact form. -/
def compact : Document → String
  | .null => "null"
  | .boolean value => if value then "true" else "false"
  | .integer value => toString value
  | .float value => value.text
  | .string text => literal text
  | .array elements => "[" ++ String.intercalate "," (compactElements elements) ++ "]"
  | .object members => "\x7b" ++ String.intercalate "," (compactMembers members) ++ "\x7d"

/-- The elements of an array in compact form. -/
def compactElements : List Document → List String
  | [] => []
  | element :: rest => compact element :: compactElements rest

/-- The members of an object in compact form. -/
def compactMembers : List (String × Document) → List String
  | [] => []
  | (key, value) :: rest => (literal key ++ ":" ++ compact value) :: compactMembers rest

end

end ContentSchema.Document
