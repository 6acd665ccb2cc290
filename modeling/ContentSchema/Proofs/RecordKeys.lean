import Mathlib
import ContentSchema.Proofs.ConstantFaults
import ContentSchema.Proofs.ModuleOutline

/-!
# The keys of a record

Once the constants of a configuration are in order, its fields decide.  The first
field on the walk that repeats a name of its own record is the error; names that are
equal in different records are none.

What this is for shows in the module.  Every record expression of a module belongs to
a record of the configuration, and its keys are those of the fields.  A key stands
for one name only, whether it is bare or a literal, so distinct names give distinct
keys, and the keys are still distinct once they are decoded.  For canonical widgets
the same can be said of the text alone: whatever record a reader finds in it, at any
depth, has distinct names.
-/

namespace ContentSchema

open Filter (atTop)
open Reading (readKey Ends endings reads_key)

/-! ## Keys -/

namespace Expression

/-- The name that a key stands for, as it is read in front of the colon. -/
def nameOfKey? (key : String) : Option String :=
  (readKey (key.toList ++ [':'])).map Prod.fst

/-- Every name is read back from its key, quoted or not. -/
theorem nameOfKey?_key (name : String) :
    nameOfKey? (key name) = some name := by
  have ends : Ends [':'] := ⟨':', [], rfl, by simp [endings]⟩
  rw [nameOfKey?, reads_key name _ ends]
  rfl

/-- Different names have different keys. -/
theorem key_injective : Function.Injective key := by
  intro first second same
  have read := nameOfKey?_key first
  rw [same, nameOfKey?_key] at read
  exact (Option.some.inj read).symm

end Expression

/-- The keys of a record are distinct, and so are the names that they are decoded to. -/
structure DistinctKeys (record : List Widget) : Prop where
  written : (record.map fun widget => Expression.key widget.name).Nodup
  decoded : ∃ names : List String, names.Nodup ∧
    (record.map fun widget => Expression.nameOfKey? (Expression.key widget.name)) =
      names.map some

theorem distinctKeys_of_nodup
    {record : List Widget}
    (distinct : (record.map Widget.name).Nodup) :
    DistinctKeys record where
  written := by
    have keys := distinct.map Expression.key_injective
    rwa [List.map_map] at keys
  decoded := by
    refine ⟨record.map Widget.name, distinct, ?_⟩
    simp only [Expression.nameOfKey?_key, List.map_map, Function.comp_def]

/-! ## Texts inside texts -/

namespace Text

/-- A text stands somewhere in another one. -/
def Within (inner outer : String) : Prop :=
  inner.toList <:+: outer.toList

namespace Within

variable {inner middle outer : String}

theorem refl (text : String) : Within text text :=
  List.infix_rfl

theorem trans (first : Within inner middle) (second : Within middle outer) :
    Within inner outer :=
  List.IsInfix.trans first second

theorem append_left (within : Within inner outer) (behind : String) :
    Within inner (outer ++ behind) := by
  unfold Within
  rw [String.toList_append]
  exact List.IsInfix.trans within (List.prefix_append _ _).isInfix

theorem append_right (within : Within inner outer) (front : String) :
    Within inner (front ++ outer) := by
  unfold Within
  rw [String.toList_append]
  exact List.IsInfix.trans within (List.suffix_append _ _).isInfix

theorem join
    {parts : List String}
    (within : Within inner outer)
    (member : outer ∈ parts) :
    Within inner (String.join parts) := by
  induction parts with
  | nil =>
      cases member
  | cons first rest ih =>
      rw [String.join_cons]
      rcases List.mem_cons.mp member with rfl | later
      · exact within.append_left _
      · exact (ih later).append_right _

theorem intercalate
    {parts : List String}
    (within : Within inner outer)
    (member : outer ∈ parts)
    (separator : String) :
    Within inner (String.intercalate separator parts) := by
  induction parts with
  | nil =>
      cases member
  | cons first rest ih =>
      cases rest with
      | nil =>
          rw [String.intercalate_singleton]
          rwa [List.mem_singleton.mp member] at within
      | cons second rest =>
          rw [String.intercalate_cons_cons]
          rcases List.mem_cons.mp member with rfl | later
          · exact (within.append_left _).append_left _
          · exact (ih later).append_right _

end Within

end Text

open Text (Within)

/-! ## The records that a module writes -/

/--
The record that the schema of a field holds outermost.  A list of several items or of
none is an array of records; a list of one item holds what that item holds.
-/
inductive Widget.WritesRecord : Widget → List Widget → Prop
  | items {name required items}
      (several : items.length ≠ 1) :
      WritesRecord (.list name required items) items
  | only {name required item record}
      (inside : WritesRecord item record) :
      WritesRecord (.list name required [item]) record

/-- A record that a module writes, top-level or nested, with the expression for it. -/
inductive Module.WritesRecord (config : Config) : List Widget → String → Prop
  | block {declaration}
      (declared : declaration ∈ config.declarations) :
      WritesRecord config declaration.collection.widgets
        (Expression.blockRecord fieldIndent (Widget.entries declaration.collection.widgets))
  | inline {record text widget items}
      (outer : WritesRecord config record text)
      (member : widget ∈ record)
      (writes : widget.WritesRecord items) :
      WritesRecord config items (Expression.inlineRecord (Widget.entries items))

namespace Widget

/-- The record that a list writes stands in the expression of the list. -/
theorem WritesRecord.within_baseExpression
    {widget : Widget} {record : List Widget}
    (writes : widget.WritesRecord record) :
    Within (Expression.inlineRecord (entries record)) widget.baseExpression := by
  induction writes with
  | @items name required items several =>
      rw [baseExpression, itemExpression_of_length_ne_one several, Expression.arrayOf]
      exact ((Within.refl _).append_right _).append_left _
  | only _ ih =>
      rw [baseExpression, itemExpression, Expression.arrayOf]
      exact (ih.append_right _).append_left _

theorem within_entry (widget : Widget) : Within widget.baseExpression widget.entry :=
  ((Within.refl _).append_left _).append_right _

theorem entry_mem_entries
    {widget : Widget} {record : List Widget}
    (member : widget ∈ record) :
    widget.entry ∈ entries record := by
  rw [entries_eq_map]
  exact List.mem_map_of_mem member

end Widget

theorem Expression.within_inlineRecord
    {entries : List String} {entry : String}
    (member : entry ∈ entries) :
    Within entry (inlineRecord entries) := by
  have filled : entries.isEmpty = false :=
    List.isEmpty_eq_false_iff.mpr (List.ne_nil_of_mem member)
  rw [inlineRecord, filled]
  exact (((Within.refl entry).intercalate member _).append_right _).append_left _

theorem Expression.within_blockRecord
    {entries : List String} {entry : String}
    (member : entry ∈ entries)
    (indent : Nat) :
    Within entry (blockRecord indent entries) := by
  have filled : entries.isEmpty = false :=
    List.isEmpty_eq_false_iff.mpr (List.ne_nil_of_mem member)
  have line : Within entry (indentation indent ++ entry ++ ",\n") :=
    ((Within.refl entry).append_right _).append_left _
  have lines : Within entry
      (String.join (entries.map fun entry => indentation indent ++ entry ++ ",\n")) :=
    line.join (List.mem_map.mpr ⟨entry, member, rfl⟩)
  rw [blockRecord, filled]
  exact ((lines.append_right _).append_left _).append_left _

namespace Module

theorem within_text
    {config : Config} {declaration : Declaration}
    (declared : declaration ∈ config.declarations) :
    Within
      (Expression.blockRecord fieldIndent (Widget.entries declaration.collection.widgets))
      (text config) := by
  have schema : Within
      (Expression.blockRecord fieldIndent (Widget.entries declaration.collection.widgets))
      (schemaLines declaration.collection.widgets) :=
    ((Within.refl _).append_right _).append_left _
  have definition : Within (schemaLines declaration.collection.widgets)
      (definition declaration) :=
    ((Within.refl _).append_right _).append_left _
  have block : Within (Module.definition declaration) (declarationText declaration ++ "\n\n") :=
    (((Within.refl _).append_right _).append_left _).append_left _
  have blocks : Within (Module.definition declaration)
      (String.join (config.declarations.map fun declaration =>
        declarationText declaration ++ "\n\n")) :=
    block.join (List.mem_map.mpr ⟨declaration, declared, rfl⟩)
  have whole : Within (Module.definition declaration) (text config) :=
    ((blocks.append_right _).append_left _).append_left _
  exact (schema.trans definition).trans whole

/-- The expression of a written record stands in the module, and so do those of its entries. -/
theorem WritesRecord.within
    {config : Config} {record : List Widget} {expression : String}
    (writes : WritesRecord config record expression) :
    Within expression (text config) ∧
      ∀ widget ∈ record, Within widget.entry expression := by
  induction writes with
  | block declared =>
      refine ⟨within_text declared, ?_⟩
      intro widget member
      exact Expression.within_blockRecord (Widget.entry_mem_entries member) _
  | inline _ member writes ih =>
      have outer := (ih.2 _ member).trans ih.1
      refine ⟨(writes.within_baseExpression.trans (Widget.within_entry _)).trans outer, ?_⟩
      intro widget inside
      exact Expression.within_inlineRecord (Widget.entry_mem_entries inside)

end Module

namespace Config

/-- What the schema of a field of a record writes as a record is one of the configuration. -/
theorem HasRecord.of_writesRecord
    {config : Config} {context : String} {record items : List Widget} {widget : Widget}
    (outer : config.HasRecord context record)
    (member : widget ∈ record)
    (writes : widget.WritesRecord items) :
    ∃ context, config.HasRecord context items := by
  induction writes generalizing context record with
  | items several =>
      exact ⟨_, .list outer member⟩
  | only inside ih =>
      exact ih (.list outer member) List.mem_cons_self

theorem HasRecord.of_mem_declarations
    {config : Config} {declaration : Declaration}
    (declared : declaration ∈ config.declarations) :
    config.HasRecord ("collection " ++ declaration.collection.name)
      declaration.collection.widgets := by
  rcases List.mem_flatMap.mp declared with ⟨collection, member, located⟩
  rcases List.mem_map.mp located with ⟨locale, _, rfl⟩
  exact .collection member

/-- Every record that is written is a record of the configuration. -/
theorem exists_hasRecord_of_writesRecord
    {config : Config} {record : List Widget} {expression : String}
    (writes : Module.WritesRecord config record expression) :
    ∃ context, config.HasRecord context record := by
  induction writes with
  | block declared =>
      exact ⟨_, .of_mem_declarations declared⟩
  | inline _ member writes ih =>
      rcases ih with ⟨_, outer⟩
      exact outer.of_writesRecord member writes

end Config

/-! ## The records that a reader finds -/

/-- A record inside a schema, the whole schema included. -/
inductive Schema.HoldsRecord (inner : List (String × Schema)) : Schema → Prop
  | record :
      HoldsRecord inner (.record inner)
  | field {fields field}
      (member : field ∈ fields)
      (inside : HoldsRecord inner field.2) :
      HoldsRecord inner (.record fields)
  | array {item}
      (inside : HoldsRecord inner item) :
      HoldsRecord inner (.array item)
  | optional {schema}
      (inside : HoldsRecord inner schema) :
      HoldsRecord inner (.optional schema)

namespace Widget

theorem not_holdsRecord_leaf
    {name : String} {required : Bool} {content : Leaf}
    {inner : List (String × Schema)} :
    ¬ Schema.HoldsRecord inner (baseSchema (.leaf name required content)) := by
  rw [baseSchema]
  intro holds
  cases content with
  | scalar kind =>
      cases kind <;> cases required <;> cases holds
  | select options enumeration =>
      cases holds
  | relation collection multiple =>
      cases multiple with
      | false =>
          cases holds
      | true =>
          cases holds with
          | array inside => cases inside

/-- The mark of an optional schema holds no further record. -/
theorem holdsRecord_of_schema
    {widget : Widget} {inner : List (String × Schema)}
    (holds : widget.schema.HoldsRecord inner) :
    widget.baseSchema.HoldsRecord inner := by
  unfold schema optionalize at holds
  split at holds
  · exact holds
  · cases holds with
    | optional inside => exact inside

end Widget

/-- A record inside the schema of a record belongs to a record of the configuration. -/
theorem Config.HasRecord.of_holdsRecord_record
    {config : Config} {context : String} {record : List Widget}
    (present : config.HasRecord context record)
    (deeper : ∀ widget ∈ record, ∀ {inner},
      widget.baseSchema.HoldsRecord inner →
        ∃ context names, config.HasRecord context names ∧
          inner.map Prod.fst = names.map Widget.name)
    {inner : List (String × Schema)}
    (holds : (Schema.record (Widget.fieldSchemas record)).HoldsRecord inner) :
    ∃ context names, config.HasRecord context names ∧
      inner.map Prod.fst = names.map Widget.name := by
  rw [Widget.fieldSchemas_eq_map] at holds
  cases holds with
  | record =>
      exact ⟨context, record, present, by rw [List.map_map]; rfl⟩
  | field member inside =>
      rcases List.mem_map.mp member with ⟨widget, widgetMember, rfl⟩
      exact deeper widget widgetMember (Widget.holdsRecord_of_schema inside)

/-- A record inside the schema of a field belongs to a record of the configuration. -/
theorem Config.HasRecord.of_holdsRecord
    {config : Config} {context : String} {record : List Widget} {widget : Widget}
    (outer : config.HasRecord context record)
    (member : widget ∈ record)
    {inner : List (String × Schema)}
    (holds : widget.baseSchema.HoldsRecord inner) :
    ∃ context names, config.HasRecord context names ∧
      inner.map Prod.fst = names.map Widget.name := by
  induction widget using Widget.induction generalizing context record inner with
  | leaf name required content =>
      exact absurd holds Widget.not_holdsRecord_leaf
  | list name required items ih =>
      have present : config.HasRecord ("list " ++ name) items := .list outer member
      have deeper : ∀ item ∈ items, ∀ {inner}, item.baseSchema.HoldsRecord inner →
          ∃ context names, config.HasRecord context names ∧
            inner.map Prod.fst = names.map Widget.name :=
        fun item inside _ holds => ih item inside present inside holds
      rw [Widget.baseSchema] at holds
      cases holds with
      | array holds =>
          unfold Widget.itemSchema at holds
          split at holds
          · exact deeper _ List.mem_cons_self holds
          · exact present.of_holdsRecord_record deeper holds

/-! ## Fields in order -/

namespace Validity

/-- How the fields of a configuration take part in its validity, and what that means. -/
structure FieldsNext (config : Config) : Prop where
  /-- An error about a field says that some visit repeats a name of its record. -/
  reported_iff :
    (∃ name context, check config = .error (.duplicateField name context)) ↔
      ∃ visit ∈ config.visits, visit.Repeats
  /-- The first such visit is reported. -/
  first : ∀ {before visit after},
    config.visits = before ++ visit :: after →
      (∀ earlier ∈ before, ¬ earlier.Repeats) →
        visit.Repeats →
          check config = .error (.duplicateField visit.widget.name visit.context)
  /-- A visit is a field of a record, behind the fields that stand before it there. -/
  visited : ∀ {visit}, visit ∈ config.visits ↔
    ∃ after, config.HasRecord visit.context (visit.before ++ visit.widget :: after)
  /-- Equal names in different records are no error. -/
  separate : (∀ context record, config.HasRecord context record →
    (record.map Widget.name).Nodup) → check config = .ok ()
  /-- Every record expression in the module of a valid configuration has distinct keys. -/
  keys : check config = .ok () → ∀ {record expression},
    Module.WritesRecord config record expression →
      Within expression (Module.ofConfig config).content ∧ DistinctKeys record
  /-- Every record that is read in the module has distinct names. -/
  read : check config = .ok () → config.Canonical →
    ∀ᶠ limit in atTop, ∃ outlines,
      Outline.readModule limit (Module.ofConfig config).content.toList = some outlines ∧
        ∀ outline ∈ outlines, ∀ inner,
          (Schema.record outline.fields).HoldsRecord inner → (inner.map Prod.fst).Nodup

/--
No record that a reader finds in a module repeats a key, when no record of the
configuration repeats a name.
-/
theorem nodup_of_mem_outline
    {config : Config}
    (distinct : ∀ context record, config.HasRecord context record →
      (record.map Widget.name).Nodup)
    {outline : Outline}
    (member : outline ∈ config.outline)
    {inner : List (String × Schema)}
    (holds : (Schema.record outline.fields).HoldsRecord inner) :
    (inner.map Prod.fst).Nodup := by
  rcases List.mem_map.mp member with ⟨declaration, declared, rfl⟩
  have outer := Config.HasRecord.of_mem_declarations declared
  rw [Declaration.outline, ← Widget.fieldSchemas_eq_map] at holds
  have found := outer.of_holdsRecord_record
    (fun _ inside _ holds => outer.of_holdsRecord inside holds) holds
  rcases found with ⟨context, names, present, same⟩
  rw [same]
  exact distinct context names present

/--
With all constants in order, the fields are checked in one walk, and the first field
that repeats a name of its own record is reported.  When there is none, all records
of the module have distinct keys, as written and as read.
-/
theorem fieldsNext
    {config : Config}
    (constants : config.ValidConstants) :
    FieldsNext config := by
  have next : check config = Visit.firstRepetition config.visits := by
    rw [check_of_constants_ok (validConstants_iff.mpr constants), checkFields_eq]
  have distinct : check config = .ok () → ∀ context record,
      config.HasRecord context record → (record.map Widget.name).Nodup :=
    fun valid => (check_eq_ok_iff.mp valid).2
  constructor
  · rw [next]
    constructor
    · rintro ⟨name, context, reported⟩
      rcases Visit.exists_of_firstRepetition_error reported with ⟨visit, visited, repeats, _⟩
      exact ⟨visit, visited, repeats⟩
    · rintro ⟨visit, visited, repeats⟩
      cases outcome : Visit.firstRepetition config.visits with
      | error error =>
          rcases Visit.exists_of_firstRepetition_error outcome with ⟨_, _, _, rfl⟩
          exact ⟨_, _, rfl⟩
      | ok =>
          exact absurd repeats (Visit.firstRepetition_eq_ok_iff.mp outcome visit visited)
  · intro before visit after walk earlier repeats
    rw [next, walk, Visit.firstRepetition_of_first earlier repeats]
  · exact Config.mem_visits_iff
  · intro apart
    exact check_eq_ok_iff.mpr ⟨constants, apart⟩
  · intro valid record expression writes
    rcases Config.exists_hasRecord_of_writesRecord writes with ⟨context, present⟩
    exact ⟨writes.within.1, distinctKeys_of_nodup (distinct valid context record present)⟩
  · intro valid canonical
    have reads := Outline.eventually_readModule
      fun _ member => Config.shape_of_mem_outline valid member
    rw [Outline.moduleText_outline canonical] at reads
    filter_upwards [reads] with limit found
    exact ⟨config.outline, found,
      fun _ member _ holds => nodup_of_mem_outline (distinct valid) member holds⟩

/-- Records inside and beside one another with a field `title` each, and one more field of two. -/
def menuConfig (dish : String) : Config :=
  ⟨[ ⟨"menus", "menus",
        [ .leaf "title" true (.scalar .string),
          .list "courses" false
            [ .leaf "title" true (.scalar .string),
              .list "dishes" false
                [ .leaf "title" true (.scalar .string),
                  .leaf "og-image" false (.scalar .image),
                  .leaf dish true (.scalar .string) ] ] ],
        none⟩,
      ⟨"pages", "pages",
        [.leaf "title" true (.scalar .string), .leaf dish true (.scalar .string)], none⟩ ],
    ["en", "fr"]⟩

/-- Of two records with two titles each, the one that is walked through first is named. -/
theorem fieldsNext_menus :
    (menuConfig "title").ValidConstants ∧
      check (menuConfig "title") = .error (.duplicateField "title" "list dishes") := by
  have constants : (menuConfig "title").ValidConstants :=
    validConstants_iff.mp (by decide +kernel)
  have walk : (menuConfig "title").visits =
      (menuConfig "title").visits.take 6 ++
        ⟨"list dishes",
          [.leaf "title" true (.scalar .string), .leaf "og-image" false (.scalar .image)],
          .leaf "title" true (.scalar .string)⟩ :: (menuConfig "title").visits.drop 7 := rfl
  exact ⟨constants, (fieldsNext constants).first walk (by decide) (by decide)⟩

/-- With one title in every record nothing is wrong, though all records have one. -/
example : check (menuConfig "price") = .ok () := by
  decide +kernel

end Validity

end ContentSchema
