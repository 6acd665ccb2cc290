import ContentSchema.Expression

/-!
# Widgets

A widget is one configured field: its name, whether it is required, and what it
holds.  A leaf holds a single value or a reference; a list holds entries whose
fields are widgets again.

Two policies govern requiredness: a list is never required, and neither is a
relation to several entries.  `Widget.ofLeaf` and `Widget.ofItems` apply them.
-/

namespace ContentSchema

/-- The kinds of value that need no settings. -/
inductive Scalar where
  | boolean
  | code
  | color
  | datetime
  | file
  | image
  | markdown
  | number
  | string
  | uuid
  deriving DecidableEq, Repr

/-- The kinds of widget that a configuration can name. -/
inductive Tag where
  | scalar (kind : Scalar)
  | list
  | relation
  | select
  deriving DecidableEq, Repr

namespace Scalar

/-- A kind of value as configurations name it. -/
def text : Scalar → String
  | .boolean => "boolean"
  | .code => "code"
  | .color => "color"
  | .datetime => "datetime"
  | .file => "file"
  | .image => "image"
  | .markdown => "markdown"
  | .number => "number"
  | .string => "string"
  | .uuid => "uuid"

end Scalar

namespace Tag

/-- A kind of widget as configurations name it. -/
def text : Tag → String
  | .scalar kind => kind.text
  | .list => "list"
  | .relation => "relation"
  | .select => "select"

/-- Every kind of widget, in alphabetic order. -/
def all : List Tag :=
  [ .scalar .boolean, .scalar .code, .scalar .color, .scalar .datetime, .scalar .file,
    .scalar .image, .list, .scalar .markdown, .scalar .number, .relation, .select,
    .scalar .string, .scalar .uuid ]

/-- The kind of widget that a text names. -/
def ofText? (text : String) : Option Tag :=
  all.find? fun tag => tag.text == text

/-- The place of a kind of widget in the list of all. -/
def position (tag : Tag) : Nat :=
  all.idxOf tag

/-- Every kind of widget is in the list, and it is the one at its place. -/
theorem getElem?_position (tag : Tag) : all[tag.position]? = some tag := by
  cases tag with
  | scalar kind => cases kind <;> decide
  | list => decide
  | relation => decide
  | select => decide

/-- No two kinds of widget have one place. -/
theorem eq_of_position_eq {first second : Tag} (same : first.position = second.position) :
    first = second := by
  have found := getElem?_position first
  rw [same, getElem?_position second] at found
  exact (Option.some.inj found).symm

theorem ofText?_text (tag : Tag) : ofText? tag.text = some tag := by
  cases tag with
  | scalar kind => cases kind <;> simp [ofText?, all, text, Scalar.text]
  | list => simp [ofText?, all, text, Scalar.text]
  | relation => simp [ofText?, all, text, Scalar.text]
  | select => simp [ofText?, all, text, Scalar.text]

end Tag

/-- What a widget holds that is no list. -/
inductive Leaf where
  | scalar (kind : Scalar)
  /-- One of several texts, with the expression that enumerates them. -/
  | select (options : List String) (enumeration : String)
  /-- An entry, or several entries, of another collection. -/
  | relation (collection : String) (multiple : Bool)
  deriving DecidableEq, Repr

namespace Leaf

/-- The kind of a leaf. -/
def tag : Leaf → Tag
  | .scalar kind => .scalar kind
  | .select _ _ => .select
  | .relation _ _ => .relation

/-- A choice among texts, with the expression that belongs to it. -/
def selectOf (options : List String) : Leaf :=
  .select options (Expression.oneOf options)

/-- Whether a leaf may be required: a relation to several entries may not. -/
def mayBeRequired : Leaf → Bool
  | .relation _ multiple => !multiple
  | _ => true

end Leaf

/-- One configured field. -/
inductive Widget where
  | leaf (name : String) (required : Bool) (content : Leaf)
  | list (name : String) (required : Bool) (items : List Widget)
  deriving Repr

namespace Widget

/-- The name of the field. -/
def name : Widget → String
  | .leaf name _ _ => name
  | .list name _ _ => name

/-- Whether the field has to be there. -/
def required : Widget → Bool
  | .leaf _ required _ => required
  | .list _ required _ => required

/-- The kind of the widget. -/
def tag : Widget → Tag
  | .leaf _ _ content => content.tag
  | .list _ _ _ => .list

/-- The fields of an entry of a list; a leaf has none. -/
def items : Widget → List Widget
  | .leaf _ _ _ => []
  | .list _ _ items => items

/-- A leaf that is required if it is asked to be and may be. -/
def ofLeaf (name : String) (required : Bool) (content : Leaf) : Widget :=
  .leaf name (required && content.mayBeRequired) content

/-- A list, which is never required. -/
def ofItems (name : String) (items : List Widget) : Widget :=
  .list name false items

end Widget

end ContentSchema
