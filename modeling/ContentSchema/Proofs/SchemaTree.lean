import Mathlib
import ContentSchema.Proofs.DescriptorSteps
import ContentSchema.Schema

/-!
# Schema trees

The schema of a widget as a tree: what a field accepts, without the kinds of
widget that accept the same, without the names of single items and without the
texts by which expressions are written.  The expression of a widget is the
expression of its tree, so a module depends on the widgets through their trees
only.

A choice stores the expression of its options beside them.  The tree looks at the
options, hence both agree only for widgets whose stored expressions are those of
their options; these are called canonical, and conversion builds no others.
-/

namespace ContentSchema

open Traversal (mapM_eq_ok_iff exists_source_of_mem)

/-! ## Trees and their expressions -/

/-- The schemas without parts. -/
inductive Schema.Atom where
  | text
  | number
  | boolean
  | uuid
  | requiredDate
  | optionalDate
  deriving DecidableEq, Repr

/-- What a field accepts. -/
inductive Schema where
  | atom (kind : Schema.Atom)
  | oneOf (options : List String)
  | reference (collection : String)
  | array (item : Schema)
  | record (fields : List (String × Schema))
  | optional (schema : Schema)
  deriving Repr

namespace Schema

/-- How a schema without parts is written. -/
def Atom.expression : Atom → String
  | .text => Expression.text
  | .number => Expression.number
  | .boolean => Expression.boolean
  | .uuid => Expression.uuid
  | .requiredDate => Expression.requiredDate
  | .optionalDate => Expression.optionalDate

mutual

/-- How a schema is written inside a line. -/
def expression : Schema → String
  | .atom kind => kind.expression
  | .oneOf options => Expression.oneOf options
  | .reference collection => Expression.referenceTo collection
  | .array item => Expression.arrayOf (expression item)
  | .record fields => Expression.inlineRecord (entries fields)
  | .optional schema => expression schema ++ Expression.optionalMark

/-- The entries of a record: a key, a colon and the expression of the field. -/
def entries : List (String × Schema) → List String
  | [] => []
  | (name, schema) :: rest =>
    (Expression.key name ++ ": " ++ expression schema) :: entries rest

end

/-- A field of a record, as it is written inside a line. -/
def entry (field : String × Schema) : String :=
  Expression.key field.1 ++ ": " ++ field.2.expression

theorem entries_eq_map (fields : List (String × Schema)) :
    entries fields = fields.map entry := by
  induction fields with
  | nil =>
      rfl
  | cons field rest ih =>
      simp [entries, entry, ih]

/-- Induction on schemas, with the fields of a record at once. -/
theorem induction
    {Holds : Schema → Prop}
    (atom : ∀ kind, Holds (.atom kind))
    (oneOf : ∀ options, Holds (.oneOf options))
    (reference : ∀ collection, Holds (.reference collection))
    (array : ∀ item, Holds item → Holds (.array item))
    (record : ∀ fields, (∀ field ∈ fields, Holds field.2) → Holds (.record fields))
    (optional : ∀ schema, Holds schema → Holds (.optional schema))
    (schema : Schema) :
    Holds schema := by
  refine @Schema.rec Holds
    (fun fields => ∀ field ∈ fields, Holds field.2)
    (fun field => Holds field.2)
    atom oneOf reference array record optional ?_ ?_ ?_ schema
  · intro field none
    cases none
  · intro first rest holdsFirst holdsRest field member
    rcases List.mem_cons.mp member with rfl | later
    · exact holdsFirst
    · exact holdsRest field later
  · intro name schema holds
    exact holds

end Schema

/-! ## The trees of widgets -/

/-- The schema of a scalar; whether a value is required matters for dates only. -/
def Scalar.schema (required : Bool) : Scalar → Schema
  | .boolean => .atom .boolean
  | .number => .atom .number
  | .uuid => .atom .uuid
  | .datetime => if required then .atom .requiredDate else .atom .optionalDate
  | .code | .color | .file | .image | .markdown | .string => .atom .text

/-- The schema of a leaf, before it is made optional. -/
def Leaf.schema (required : Bool) : Leaf → Schema
  | .scalar kind => kind.schema required
  | .select options _ => .oneOf options
  | .relation collection multiple =>
    if multiple then .array (.reference collection) else .reference collection

namespace Widget

/-- Induction on widgets, with the items of a list at once. -/
theorem induction
    {Holds : Widget → Prop}
    (leaf : ∀ name required content, Holds (.leaf name required content))
    (list : ∀ name required items,
      (∀ item ∈ items, Holds item) → Holds (.list name required items))
    (widget : Widget) :
    Holds widget := by
  refine @Widget.rec Holds (fun items => ∀ item ∈ items, Holds item) leaf list ?_ ?_ widget
  · intro item none
    cases none
  · intro first rest holdsFirst holdsRest item member
    rcases List.mem_cons.mp member with rfl | later
    · exact holdsFirst
    · exact holdsRest item later

/-- The entries of a list are records unless the list has exactly one item. -/
theorem itemExpression_of_length_ne_one
    {items : List Widget}
    (several : items.length ≠ 1) :
    itemExpression items = Expression.inlineRecord (entries items) := by
  rw [itemExpression]
  rintro item rfl
  exact several rfl

/-- A schema accepts missing values unless the field is required or a date. -/
def optionalize (widget : Widget) (schema : Schema) : Schema :=
  if widget.isDate || widget.required then schema else .optional schema

mutual

/-- The schema of a widget, before it is made optional. -/
def baseSchema : Widget → Schema
  | .leaf _ required content => content.schema required
  | .list _ _ items => .array (itemSchema items)

/-- The schema of an entry of a list: the one item, or a record of several. -/
def itemSchema : List Widget → Schema
  | [item] => baseSchema item
  | items => .record (fieldSchemas items)

/-- The schemas of the fields of a record, with the marks of those that are not required. -/
def fieldSchemas : List Widget → List (String × Schema)
  | [] => []
  | widget :: rest =>
    (widget.name, widget.optionalize (baseSchema widget)) :: fieldSchemas rest

end

/-- The schema of a widget, with its mark if the widget is not required. -/
def schema (widget : Widget) : Schema :=
  widget.optionalize widget.baseSchema

theorem fieldSchemas_eq_map (widgets : List Widget) :
    fieldSchemas widgets = widgets.map fun widget => (widget.name, widget.schema) := by
  induction widgets with
  | nil =>
      simp [fieldSchemas]
  | cons widget rest ih =>
      simp [fieldSchemas, schema, ih]

end Widget

/-! ## Canonical widgets -/

/-- A choice stores the expression of its own options. -/
def Leaf.Canonical : Leaf → Prop
  | .select options enumeration => enumeration = Expression.oneOf options
  | _ => True

/-- All choices inside a widget store the expressions of their options. -/
inductive Widget.Canonical : Widget → Prop
  | leaf {name required content}
      (stored : content.Canonical) :
      Canonical (.leaf name required content)
  | list {name required items}
      (inside : ∀ item ∈ items, Canonical item) :
      Canonical (.list name required items)

/-- Every widget of every collection is canonical. -/
def Config.Canonical (config : Config) : Prop :=
  ∀ collection ∈ config.collections,
    ∀ widget ∈ collection.widgets, widget.Canonical

theorem Config.Canonical.of_mem_declarations
    {config : Config}
    (canonical : config.Canonical)
    {declaration : Declaration}
    (declared : declaration ∈ config.declarations) :
    ∀ widget ∈ declaration.collection.widgets, widget.Canonical := by
  rcases List.mem_flatMap.mp declared with ⟨collection, inside, located⟩
  rcases List.mem_map.mp located with ⟨locale, _, rfl⟩
  exact canonical collection inside

/-- The schema of a scalar is written as the expression of the scalar. -/
theorem Scalar.expression_schema (required : Bool) (kind : Scalar) :
    (kind.schema required).expression = kind.expression required := by
  cases kind <;> cases required <;> rfl

/-- The schema of a canonical leaf is written as the expression that the leaf stores or computes. -/
theorem Leaf.expression_schema
    {content : Leaf}
    (canonical : content.Canonical)
    (required : Bool) :
    (content.schema required).expression = content.expression required := by
  cases content with
  | scalar kind =>
      exact kind.expression_schema required
  | select options enumeration =>
      exact canonical.symm
  | relation collection multiple =>
      cases multiple <;> rfl

namespace Widget

/-- The mark of an optional schema is what stands behind its expression. -/
theorem expression_optionalize (widget : Widget) (schema : Schema) :
    (widget.optionalize schema).expression = schema.expression ++ widget.mark := by
  unfold optionalize mark
  split <;> simp [Schema.expression]

theorem entry_eq_of_expression
    {widget : Widget}
    (same : widget.baseSchema.expression = widget.baseExpression) :
    Schema.entry (widget.name, widget.schema) = widget.entry := by
  unfold Schema.entry entry Widget.schema expression
  rw [expression_optionalize, same]

/-- The expression of a canonical widget is the expression of its tree. -/
theorem Canonical.expression_baseSchema
    {widget : Widget}
    (canonical : widget.Canonical) :
    widget.baseSchema.expression = widget.baseExpression := by
  induction canonical with
  | leaf stored =>
      simp only [baseSchema, baseExpression, Leaf.expression_schema stored]
  | @list name required items _ ih =>
      have record : Schema.entries (fieldSchemas items) = entries items := by
        rw [Schema.entries_eq_map, fieldSchemas_eq_map, entries_eq_map, List.map_map]
        exact List.map_congr_left fun item member =>
          entry_eq_of_expression (ih item member)
      cases items with
      | nil =>
          simp only [baseSchema, itemSchema, Schema.expression, record,
            baseExpression, itemExpression]
      | cons first rest =>
          cases rest with
          | nil =>
              have only := ih first (List.mem_singleton.mpr rfl)
              simp only [baseSchema, itemSchema, Schema.expression, only,
                baseExpression, itemExpression]
          | cons second rest =>
              simp only [baseSchema, itemSchema, Schema.expression, record,
                baseExpression, itemExpression]

/-- The entry of a canonical widget is that of its name and its schema. -/
theorem Canonical.entry_schema
    {widget : Widget}
    (canonical : widget.Canonical) :
    Schema.entry (widget.name, widget.schema) = widget.entry :=
  entry_eq_of_expression canonical.expression_baseSchema

theorem map_entry_schema
    {widgets : List Widget}
    (canonical : ∀ widget ∈ widgets, widget.Canonical) :
    (widgets.map fun widget => (widget.name, widget.schema)).map Schema.entry =
      entries widgets := by
  rw [entries_eq_map, List.map_map]
  exact List.map_congr_left fun widget member => (canonical widget member).entry_schema

end Widget

/-! ## Conversion builds canonical widgets -/

namespace Descriptor

/-- Conversion only makes canonical widgets. -/
theorem canonical_of_widgetWithin
    {lists : Nat} {descriptor : Document} {made : Widget}
    (success : widgetWithin lists descriptor = .ok made) :
    made.Canonical := by
  refine widgetWithin_induction (motive := fun _ _ made => made.Canonical)
    ?_ ?_ ?_ ?_ success
  · intro _ _ _ _ _ _
    exact .leaf trivial
  · intro _ _ _ _ _ _ choice
    rcases selectLeaf_eq_ok_iff.mp choice with ⟨_, _, _, _, _, rfl⟩
    exact .leaf rfl
  · intro _ _ _ _ _ _ target
    rcases relationLeaf_eq_ok_iff.mp target with ⟨_, _, _, _, _, rfl⟩
    exact .leaf trivial
  · intro _ _ _ _ _ _ _ _ converted
    refine .list ?_
    intro item member
    rcases exists_source_of_mem converted member with ⟨_, _, canonical⟩
    exact canonical

/-- A configuration that was converted from a document is canonical. -/
theorem canonical_of_config
    {lead : Option String} {document : Document} {made : Config}
    (success : config lead document = .ok made) :
    made.Canonical := by
  rcases config_eq_ok_iff.mp success with
    ⟨descriptors, collections, codes, _, converted, _, rfl⟩
  intro collection member widget inside
  rcases exists_source_of_mem (mapM_eq_ok_iff.mp converted) member with
    ⟨descriptor, _, built⟩
  rcases collection_eq_ok_iff.mp (collectionObject_eq_ok_iff.mp built).2 with
    ⟨_, _, fields, widgets, _, _, _, each, rfl⟩
  rcases exists_source_of_mem (mapM_eq_ok_iff.mp each) inside with
    ⟨field, _, success⟩
  exact canonical_of_widgetWithin success

end Descriptor

end ContentSchema
