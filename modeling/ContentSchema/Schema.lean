import ContentSchema.Widget

/-!
# The schema of a widget

The schema of a widget is an expression that accepts exactly the values the
field may hold.  A list of one field is an array of the values of that field; a
list of several fields is an array of records.  A field that is not required
carries the optional mark, except a date, which has an expression for either case.

A record is written in one line inside a list and over several lines at the top of
a collection.
-/

namespace ContentSchema

namespace Scalar

/-- The expression of a value without settings. -/
def expression (required : Bool) : Scalar → String
  | .boolean => Expression.boolean
  | .number => Expression.number
  | .uuid => Expression.uuid
  | .datetime => if required then Expression.requiredDate else Expression.optionalDate
  | .code | .color | .file | .image | .markdown | .string => Expression.text

end Scalar

namespace Leaf

/-- The expression of a leaf, without the optional mark. -/
def expression (required : Bool) : Leaf → String
  | .scalar kind => kind.expression required
  | .select _ enumeration => enumeration
  | .relation collection multiple =>
    if multiple then Expression.arrayOf (Expression.referenceTo collection)
    else Expression.referenceTo collection

end Leaf

namespace Expression

/-- A record in one line, given its entries. -/
def inlineRecord (entries : List String) : String :=
  if entries.isEmpty then "z.object(\x7b\x7d)"
  else "z.object(\x7b " ++ String.intercalate ", " entries ++ " \x7d)"

/-- Blanks at the start of a line. -/
def indentation (width : Nat) : String :=
  String.ofList (List.replicate width ' ')

/-- A record with a line for every entry; its end stands four blanks further left. -/
def blockRecord (indent : Nat) (entries : List String) : String :=
  if entries.isEmpty then "z.object(\x7b\x7d)"
  else
    "z.object(\x7b\n" ++ String.join (entries.map fun entry => indentation indent ++ entry ++ ",\n")
      ++ indentation (indent - 4) ++ "\x7d)"

end Expression

namespace Widget

/-- A date says in its own expression whether it may be missing. -/
def isDate (widget : Widget) : Bool :=
  widget.tag == .scalar .datetime

/-- What follows the expression of a field: the optional mark unless it is required. -/
def mark (widget : Widget) : String :=
  if widget.isDate || widget.required then "" else Expression.optionalMark

mutual

/-- The expression of a widget, without the optional mark. -/
def baseExpression : Widget → String
  | .leaf _ required content => content.expression required
  | .list _ _ items => Expression.arrayOf (itemExpression items)

/-- The expression of an entry of a list. -/
def itemExpression : List Widget → String
  | [item] => baseExpression item
  | items => Expression.inlineRecord (entries items)

/-- The entries of a record: a key, a colon and the whole expression of the field. -/
def entries : List Widget → List String
  | [] => []
  | widget :: rest =>
    (Expression.key widget.name ++ ": " ++ baseExpression widget ++ widget.mark) :: entries rest

end

/-- The whole expression of a widget. -/
def expression (widget : Widget) : String :=
  widget.baseExpression ++ widget.mark

/-- The entry of a record that a widget makes. -/
def entry (widget : Widget) : String :=
  Expression.key widget.name ++ ": " ++ widget.expression

theorem entries_eq_map (widgets : List Widget) : entries widgets = widgets.map entry := by
  induction widgets with
  | nil => simp [entries]
  | cons widget rest hypothesis =>
    simp [entries, entry, expression, hypothesis, String.append_assoc]

end Widget

end ContentSchema
