import ContentSchema.Text.Identifier
import ContentSchema.Text.Literal

/-!
# Schema expressions as text

The pieces from which the schema of a field is written.  Every text that comes
from a configuration enters an expression as a literal, or as a bare key where
its shape allows that.
-/

namespace ContentSchema.Expression

open Text

/-- The schema of any text. -/
def text : String := "z.string()"

/-- The schema of a number. -/
def number : String := "z.number()"

/-- The schema of a truth value. -/
def boolean : String := "z.boolean()"

/-- The schema of a UUID. -/
def uuid : String := "z.string().uuid()"

/-- The schema of a date that has to be there. -/
def requiredDate : String := "z.coerce.date()"

/-- The schema of a date that may be missing; an empty text counts as missing. -/
def optionalDate : String :=
  "z.union([z.string().transform((val) => (val === \"\" ? undefined : new Date(val))), "
    ++ "z.date()]).optional()"

/-- What makes any other schema accept a missing value. -/
def optionalMark : String := ".nullable().optional()"

/-- The schema of a list of values. -/
def arrayOf (item : String) : String :=
  "z.array(" ++ item ++ ")"

/-- The schema of one text among several, in the given order. -/
def oneOf (options : List String) : String :=
  "z.enum([" ++ String.intercalate ", " (options.map literal) ++ "])"

/-- The schema of a reference to an entry of another collection. -/
def referenceTo (collection : String) : String :=
  "reference(" ++ literal collection ++ ")"

/--
A key of a record.  It stands bare when it has the shape of an identifier, for
which a reserved word will do, and as a literal otherwise.
-/
def key (name : String) : String :=
  if hasIdentifierShape name then name else literal name

end ContentSchema.Expression
