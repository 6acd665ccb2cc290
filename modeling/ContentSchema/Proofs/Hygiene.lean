import Mathlib
import ContentSchema.Proofs.ConstantNames
import ContentSchema.Proofs.FreeNames

/-!
# The names that a module uses freely

The expressions of a module are the definitions of its constants and the object
that exports them.  Their free names are the functions that the module imports and,
where a date may be missing, two names that the language provides.  Validity keeps
the constants apart from the names that the module binds itself; the names that the
language provides are left to the author of the configuration.

The text of a module is put together from these expressions and from fixed words, so
what is said of their free names is said of the text.
-/

namespace ContentSchema

open Token

/-! ## The names that widgets bring in -/

namespace Widget

/-- A widget occurs in another one, at any depth. -/
inductive Occurs (inner : Widget) : Widget → Prop
  | self :
      Occurs inner inner
  | inside {name required items item}
      (member : item ∈ items)
      (occurs : Occurs inner item) :
      Occurs inner (.list name required items)

/-- A widget is a date that may be missing. -/
def IsOptionalDate (widget : Widget) : Prop :=
  widget.tag = .scalar .datetime ∧ widget.required = false

/-- A name that the expression of a widget itself mentions, besides the one of the library. -/
def Mentions (widget : Widget) (name : String) : Prop :=
  (widget.tag = .relation ∧ name = "reference") ∨
    (widget.IsOptionalDate ∧ (name = "undefined" ∨ name = "Date"))

theorem Mentions.ne_z
    {widget : Widget}
    {name : String}
    (mentions : widget.Mentions name) :
    name ≠ "z" := by
  rcases mentions with ⟨_, rfl⟩ | ⟨_, rfl | rfl⟩ <;> decide

/-- That a value may be missing mentions no further name, as the mark calls methods only. -/
theorem freeNames_optionalize (widget : Widget) (schema : Schema) :
    (widget.optionalize schema).freeNames = schema.freeNames := by
  unfold optionalize
  split <;> simp [Schema.freeNames]

/-- Besides the library, a leaf mentions what its own kind asks for. -/
theorem mem_freeNames_leaf_iff
    {label name : String}
    {required : Bool}
    {content : Leaf}
    (other : name ≠ "z") :
    name ∈ (baseSchema (.leaf label required content)).freeNames ↔
      Mentions (.leaf label required content) name := by
  rw [baseSchema]
  cases content with
  | scalar kind =>
      cases kind <;> cases required <;>
        simp [Leaf.schema, Scalar.schema, Schema.freeNames, Schema.Atom.freeNames, Mentions,
          IsOptionalDate, tag, Leaf.tag, Widget.required, other]
  | select options enumeration =>
      simp [Leaf.schema, Schema.freeNames, Mentions, IsOptionalDate, tag, Leaf.tag, other]
  | relation collection multiple =>
      cases multiple <;>
        simp [Leaf.schema, Schema.freeNames, Mentions, IsOptionalDate, tag, Leaf.tag, other]

/-- Besides the library, a list mentions what its items mention. -/
theorem mem_freeNames_list_iff
    {label name : String}
    {required : Bool}
    {items : List Widget}
    (other : name ≠ "z") :
    name ∈ (baseSchema (.list label required items)).freeNames ↔
      ∃ item ∈ items, name ∈ item.baseSchema.freeNames := by
  rw [baseSchema, Schema.freeNames, List.mem_cons, or_iff_right other]
  have record : name ∈ (Schema.record (fieldSchemas items)).freeNames ↔
      ∃ item ∈ items, name ∈ item.baseSchema.freeNames := by
    rw [Schema.freeNames, List.mem_cons, or_iff_right other,
      Schema.fieldsFreeNames_eq_flatMap, fieldSchemas_eq_map, List.mem_flatMap]
    simp only [List.mem_map, exists_exists_and_eq_and, schema, freeNames_optionalize]
  cases items with
  | nil =>
      rw [itemSchema]
      · exact record
      · simp
  | cons first rest =>
      cases rest with
      | nil =>
          simp [itemSchema]
      | cons second rest =>
          rw [itemSchema]
          · exact record
          · simp

/-- The schema of a widget uses the names that some widget inside it mentions. -/
theorem mem_freeNames_iff
    {widget : Widget}
    {name : String}
    (other : name ≠ "z") :
    name ∈ widget.schema.freeNames ↔
      ∃ inner, Occurs inner widget ∧ inner.Mentions name := by
  rw [schema, freeNames_optionalize]
  induction widget using Widget.induction with
  | leaf label required content =>
      rw [mem_freeNames_leaf_iff other]
      constructor
      · intro mentions
        exact ⟨_, .self, mentions⟩
      · rintro ⟨inner, occurs, mentions⟩
        cases occurs
        exact mentions
  | list label required items ih =>
      rw [mem_freeNames_list_iff other]
      constructor
      · rintro ⟨item, member, used⟩
        rcases (ih item member).mp used with ⟨inner, occurs, mentions⟩
        exact ⟨inner, .inside member occurs, mentions⟩
      · rintro ⟨inner, occurs, mentions⟩
        cases occurs with
        | self =>
            rcases mentions with ⟨relation, _⟩ | ⟨⟨date, _⟩, _⟩
            · cases relation
            · cases date
        | @inside _ _ _ item member occurs =>
            exact ⟨item, member, (ih item member).mpr ⟨inner, occurs, mentions⟩⟩

end Widget

/-! ## The definition of a constant -/

namespace Module

/-- The tokens of the fields of a collection, each with the comma behind it. -/
def fieldTokens (fields : List (String × Schema)) : List Token :=
  fields.flatMap fun field => Schema.entryTokens field ++ [.sign ',']

/-- The tokens of the record of a collection, laid out as a block. -/
def recordTokens (fields : List (String × Schema)) : List Token :=
  [word "z", sign '.', word "object", sign '(', sign '\x7b']
    ++ fieldTokens fields ++ [sign '\x7d', sign ')']

/-- The tokens of the entry that says where a collection is loaded from. -/
def loaderTokens : List Token :=
  [ word "loader", sign ':', word "glob", sign '(', sign '\x7b',
    word "pattern", sign ':', quoted, sign ',',
    word "base", sign ':', quoted, sign '\x7d', sign ')', sign ',' ]

/-- The tokens of the definition of a constant. -/
def definitionTokens (fields : List (String × Schema)) : List Token :=
  [word "defineCollection", sign '(', sign '\x7b']
    ++ loaderTokens
    ++ ([word "schema", sign ':'] ++ recordTokens fields ++ [sign ','])
    ++ [sign '\x7d', sign ')']

theorem lexed_loaderLine (base : String) :
    Lexed (loaderLine base) loaderTokens := by
  have opening : Lexed "    loader: glob(\x7b pattern: "
      [ .word "loader", .sign ':', .word "glob", .sign '(', .sign '\x7b',
        .word "pattern", .sign ':' ] := by
    decide +kernel
  have between : Lexed ", base: " [.sign ',', .word "base", .sign ':'] := by
    decide +kernel
  have closing : Lexed " \x7d),\n" [.sign '\x7d', .sign ')', .sign ','] := by
    decide +kernel
  exact (((opening.append (lexed_literal entryPattern)).append between).append
    (lexed_literal base)).append closing

theorem lexed_blockRecord (fields : List (String × Schema)) :
    Lexed (Expression.blockRecord fieldIndent (fields.map Schema.entry))
      (recordTokens fields) := by
  cases fields with
  | nil =>
      decide +kernel
  | cons first others =>
      have opening : Lexed "z.object(\x7b\n"
          [.word "z", .sign '.', .word "object", .sign '(', .sign '\x7b'] := by
        decide +kernel
      have before : Lexed (Expression.indentation fieldIndent) [] := by decide
      have behind : Lexed ",\n" [.sign ','] := by decide +kernel
      have indent : Lexed (Expression.indentation (fieldIndent - 4)) [] := by decide
      have closing : Lexed "\x7d)" [.sign '\x7d', .sign ')'] := by decide +kernel
      have lines : Lexed (String.join ((first :: others).map fun field =>
          Expression.indentation fieldIndent ++ Schema.entry field ++ ",\n"))
            (fieldTokens (first :: others)) :=
        lexed_join fun field _ =>
          (before.append (Schema.lexed_entry field.2.lexed_expression)).append behind
      have whole := ((opening.append lines).append indent).append closing
      rw [List.append_nil] at whole
      have written : (first :: others).map (fun field =>
          Expression.indentation fieldIndent ++ Schema.entry field ++ ",\n") =
            ((first :: others).map Schema.entry).map fun entry =>
              Expression.indentation fieldIndent ++ entry ++ ",\n" := by
        rw [List.map_map]
        rfl
      rw [written] at whole
      exact whole

theorem lexed_definition
    {declaration : Declaration}
    (canonical : ∀ widget ∈ declaration.collection.widgets, widget.Canonical) :
    Lexed (definition declaration)
      (definitionTokens (declaration.collection.widgets.map fun widget =>
        (widget.name, widget.schema))) := by
  have opening : Lexed "defineCollection(\x7b\n"
      [.word "defineCollection", .sign '(', .sign '\x7b'] := by
    decide +kernel
  have label : Lexed "    schema: " [.word "schema", .sign ':'] := by decide +kernel
  have comma : Lexed ",\n" [.sign ','] := by decide +kernel
  have closing : Lexed "\x7d)" [.sign '\x7d', .sign ')'] := by decide +kernel
  unfold definition schemaLines
  rw [← Widget.map_entry_schema canonical]
  exact ((opening.append (lexed_loaderLine declaration.base)).append
    ((label.append (lexed_blockRecord _)).append comma)).append closing

/--
The fields of a record mention what their schemas mention; the keys and the commas
between them leave the scopes as they are.
-/
theorem freeNames_fieldTokens
    (fields : List (String × Schema))
    {groups : List Group}
    (unbound : Unbound groups)
    {previous : Option Token}
    (leads : previous = some (.sign '\x7b') ∨ previous = some (.sign ','))
    (rest : List Token) :
    ∃ last, Token.freeNames previous (⟨some '\x7b', []⟩ :: groups)
        (fieldTokens fields ++ rest) =
      (fields.flatMap fun field => field.2.freeNames)
        ++ Token.freeNames last (⟨some '\x7b', []⟩ :: groups) rest := by
  induction fields generalizing previous with
  | nil =>
      exact ⟨previous, rfl⟩
  | cons field fields ih =>
      rcases ih (.inr rfl) with ⟨last, tail⟩
      refine ⟨last, ?_⟩
      rw [fieldTokens, List.flatMap_cons, List.append_assoc, List.append_assoc,
        Schema.freeNames_entryTokens field.2.isValue unbound leads,
        List.flatMap_cons, List.append_assoc]
      exact congrArg (field.2.freeNames ++ ·) tail

/-- A definition mentions three imports in front of what its fields mention. -/
theorem freeNames_definitionTokens (fields : List (String × Schema)) :
    Token.freeNames none [Group.outermost] (definitionTokens fields) =
      "defineCollection" :: "glob" :: "z"
        :: fields.flatMap fun field => field.2.freeNames := by
  have unbound : Unbound [Group.outermost] := fun _ => rfl
  have object := unbound_cons (unbound_cons unbound (some '(')) (some '\x7b')
  have defineCollection : Text.isIdentifier "defineCollection" = true := by
    decide +kernel
  have glob : Text.isIdentifier "glob" = true := by decide +kernel
  rcases freeNames_fieldTokens fields (unbound_cons object (some '(')) (.inl rfl)
    [ .sign '\x7d', .sign ')', .sign ',', .sign '\x7d', .sign ')' ] with ⟨last, inside⟩
  have whole : definitionTokens fields =
      .word "defineCollection" :: .sign '(' :: .sign '\x7b'
        :: .word "loader" :: .sign ':' :: .word "glob" :: .sign '(' :: .sign '\x7b'
        :: .word "pattern" :: .sign ':' :: .quoted :: .sign ','
        :: .word "base" :: .sign ':' :: .quoted :: .sign '\x7d' :: .sign ')' :: .sign ','
        :: .word "schema" :: .sign ':'
        :: .word "z" :: .sign '.' :: .word "object" :: .sign '(' :: .sign '\x7b'
        :: (fieldTokens fields
          ++ [.sign '\x7d', .sign ')', .sign ',', .sign '\x7d', .sign ')']) := by
    simp [definitionTokens, loaderTokens, recordTokens]
  rw [whole]
  simpa [Token.freeNames, freeName, isMember, isKey, Group.isObject, Group.next,
    Group.parameter?, Group.bind, Group.release, Group.binds, Group.outermost,
    defineCollection, glob, Schema.isIdentifier_z] using inside

/-! ## The exported object -/

/-- The object that holds all constants. -/
def exportedObject (constants : List String) : String :=
  if constants.isEmpty then "\x7b\x7d"
  else "\x7b " ++ String.intercalate ", " constants ++ " \x7d"

theorem exportStatement_eq (constants : List String) :
    exportStatement constants =
      "export const collections = " ++ exportedObject constants ++ ";" := by
  have opening : "export const collections = \x7b " =
      "export const collections = " ++ "\x7b " := by
    decide
  have closing : " \x7d;" = " \x7d" ++ ";" := by decide
  unfold exportStatement exportedObject
  split
  · decide
  · simp only [opening, closing]
    simp only [String.append_assoc]

theorem lexed_constants
    {constants : List String}
    (filled : constants ≠ [])
    (shapes : ∀ constant ∈ constants, Text.hasIdentifierShape constant = true) :
    Lexed (String.intercalate ", " constants ++ " \x7d")
      ([.sign ','].intercalate (constants.map fun constant => [.word constant])
        ++ [.sign '\x7d']) := by
  have closing : Lexed " \x7d" [.sign '\x7d'] := by decide +kernel
  have comma : Lexed ", " [.sign ','] := by decide +kernel
  induction constants with
  | nil =>
      exact absurd rfl filled
  | cons first others ih =>
      have shape := shapes first List.mem_cons_self
      cases others with
      | nil =>
          rw [String.intercalate_singleton, List.map_singleton, List.intercalate_singleton]
          exact lexed_word shape closing rfl (Text.not_isIdentifierPart (by decide))
      | cons second others =>
          have tail := ih (List.cons_ne_nil second others)
            fun constant member => shapes constant (List.mem_cons_of_mem _ member)
          have leads : (", " ++ (String.intercalate ", " (second :: others) ++ " \x7d")
              ).toList.head? = some ',' := by
            rw [String.toList_append]
            rfl
          rw [String.intercalate_cons_cons, String.append_assoc, String.append_assoc,
            List.map_cons, List.map_cons, List.intercalate_cons_cons, List.append_assoc,
            List.append_assoc]
          exact lexed_word shape (comma.append tail) leads
            (Text.not_isIdentifierPart (by decide))

/-- Constants stand in the exported object as its keys. -/
theorem freeNames_exportedObject
    {constants : List String}
    (shapes : ∀ constant ∈ constants, Text.hasIdentifierShape constant = true) :
    Expression.freeNames (exportedObject constants) = [] := by
  cases constants with
  | nil =>
      decide +kernel
  | cons first others =>
      have opening : Lexed "\x7b " [.sign '\x7b'] := by decide +kernel
      have lexed := opening.append
        (lexed_constants (List.cons_ne_nil first others) shapes)
      have nothing : ((first :: others).flatMap fun _ => ([] : List String)) = [] := by
        simp
      rcases freeNames_intercalate (first :: others) (fun constant => [.word constant])
        (fun _ => []) '\x7b' [Group.outermost]
        (fun constant _ _ rest leads =>
          ⟨some (.word constant), freeNames_keyWord leads constant rest⟩)
        (.inl rfl) [.sign '\x7d'] with ⟨last, inside⟩
      rw [nothing] at inside
      rw [← String.append_assoc] at lexed
      unfold Expression.freeNames
      change Token.freeNames _ _ (Token.ofText ("\x7b " ++ _ ++ " \x7d")) = []
      rw [lexed.ofText_eq]
      exact inside

/-! ## The whole module -/

/-- The expressions of a module: the definitions and the exported object. -/
def expressions (config : Config) : List String :=
  config.declarations.map definition ++ [exportedObject config.constants]

/-- The names that the expressions of a module use freely. -/
def freeNames (config : Config) : List String :=
  (expressions config).flatMap Expression.freeNames

/--
The text behind the imports: a constant names the expression at its place, and the one
expression without a constant is exported.
-/
def assembled : List String → List String → String
  | constant :: constants, expression :: expressions =>
    "const " ++ constant ++ " = " ++ expression ++ ";\n\n" ++ assembled constants expressions
  | _, expressions => "export const collections = " ++ String.join expressions ++ ";\n"

theorem assembled_definitions (declarations : List Declaration) (exported : String) :
    assembled (declarations.map Declaration.constant)
        (declarations.map definition ++ [exported]) =
      String.join (declarations.map fun declaration => declarationText declaration ++ "\n\n")
        ++ ("export const collections = " ++ exported ++ ";\n") := by
  have closing : ";\n\n" = ";" ++ "\n\n" := by decide
  induction declarations with
  | nil =>
      simp [assembled, String.append_assoc]
  | cons declaration declarations ih =>
      rw [List.map_cons, List.map_cons, List.cons_append, assembled, ih, List.map_cons,
        String.join_cons, declarationText, closing]
      simp only [String.append_assoc]

/-- Besides its expressions, a module has imports and names for the expressions only. -/
theorem text_eq_assembled (config : Config) :
    text config =
      String.join (imports.map fun line => line ++ "\n") ++ "\n"
        ++ assembled config.constants (expressions config) := by
  have closing : ";\n" = ";" ++ "\n" := by decide
  rw [Config.constants, expressions, assembled_definitions, closing, text, exportStatement_eq]
  simp only [String.append_assoc]

/-- The free names of the definition of a constant. -/
theorem freeNames_definition
    {declaration : Declaration}
    (canonical : ∀ widget ∈ declaration.collection.widgets, widget.Canonical) :
    Expression.freeNames (definition declaration) =
      "defineCollection" :: "glob" :: "z"
        :: declaration.collection.widgets.flatMap fun widget => widget.schema.freeNames := by
  rw [Expression.freeNames, (lexed_definition canonical).ofText_eq,
    freeNames_definitionTokens, List.flatMap_map]

/--
A definition mentions three imports and what its widgets mention at any depth, and
nothing else.
-/
theorem mem_freeNames_definition_iff
    {declaration : Declaration}
    (canonical : ∀ widget ∈ declaration.collection.widgets, widget.Canonical)
    {name : String} :
    name ∈ Expression.freeNames (definition declaration) ↔
      (name = "defineCollection" ∨ name = "glob" ∨ name = "z") ∨
        ∃ widget ∈ declaration.collection.widgets,
          ∃ inner, Widget.Occurs inner widget ∧ inner.Mentions name := by
  rw [freeNames_definition canonical]
  simp only [List.mem_cons, List.mem_flatMap]
  constructor
  · rintro (rfl | rfl | rfl | ⟨widget, member, used⟩)
    · exact .inl (.inl rfl)
    · exact .inl (.inr (.inl rfl))
    · exact .inl (.inr (.inr rfl))
    · by_cases library : name = "z"
      · exact .inl (.inr (.inr library))
      · exact .inr ⟨widget, member, (Widget.mem_freeNames_iff library).mp used⟩
  · rintro ((rfl | rfl | rfl) | ⟨widget, member, inner, occurs, mentions⟩)
    · exact .inl rfl
    · exact .inr (.inl rfl)
    · exact .inr (.inr (.inl rfl))
    · refine .inr (.inr (.inr ⟨widget, member, ?_⟩))
      exact (Widget.mem_freeNames_iff mentions.ne_z).mpr ⟨inner, occurs, mentions⟩

/-- A widget occurs in a field of a declaration, at any depth. -/
def Declares (config : Config) (inner : Widget) : Prop :=
  ∃ declaration ∈ config.declarations, ∃ widget ∈ declaration.collection.widgets,
    Widget.Occurs inner widget

/-- The free names of a module are three of its imports and what its widgets mention. -/
theorem mem_freeNames_iff
    {config : Config}
    (canonical : config.Canonical)
    (shapes : ∀ constant ∈ config.constants, Text.hasIdentifierShape constant = true)
    {name : String} :
    name ∈ freeNames config ↔
      (config.declarations ≠ [] ∧
        (name = "defineCollection" ∨ name = "glob" ∨ name = "z")) ∨
          ∃ inner, Declares config inner ∧ inner.Mentions name := by
  have definitions : name ∈ freeNames config ↔
      ∃ declaration ∈ config.declarations,
        name ∈ Expression.freeNames (definition declaration) := by
    simp [freeNames, expressions, freeNames_exportedObject shapes]
  rw [definitions]
  constructor
  · rintro ⟨declaration, declared, used⟩
    rcases (mem_freeNames_definition_iff (canonical.of_mem_declarations declared)).mp used
      with imported | ⟨widget, member, inner, occurs, mentions⟩
    · exact .inl ⟨List.ne_nil_of_mem declared, imported⟩
    · exact .inr ⟨inner, ⟨declaration, declared, widget, member, occurs⟩, mentions⟩
  · rintro (⟨filled, imported⟩ |
      ⟨inner, ⟨declaration, declared, widget, member, occurs⟩, mentions⟩)
    · rcases List.exists_mem_of_ne_nil _ filled with ⟨declaration, declared⟩
      refine ⟨declaration, declared, ?_⟩
      exact (mem_freeNames_definition_iff
        (canonical.of_mem_declarations declared)).mpr (.inl imported)
    · refine ⟨declaration, declared, ?_⟩
      exact (mem_freeNames_definition_iff (canonical.of_mem_declarations declared)).mpr
        (.inr ⟨widget, member, inner, occurs, mentions⟩)

/-- The free names of a valid module, with the widgets that mention them told apart. -/
theorem mem_freeNames_iff_cases
    {config : Config}
    (canonical : config.Canonical)
    (valid : Validity.check config = .ok ())
    (name : String) :
    name ∈ freeNames config ↔
      (config.declarations ≠ [] ∧
        (name = "defineCollection" ∨ name = "glob" ∨ name = "z")) ∨
      (name = "reference" ∧ ∃ inner, Declares config inner ∧ inner.tag = .relation) ∨
      ((name = "undefined" ∨ name = "Date") ∧
        ∃ inner, Declares config inner ∧ inner.IsOptionalDate) := by
  rw [mem_freeNames_iff canonical fun _ => Validity.shape_of_check valid]
  refine or_congr_right ?_
  constructor
  · rintro ⟨inner, declared, ⟨relation, rfl⟩ | ⟨optional, named⟩⟩
    · exact .inl ⟨rfl, inner, declared, relation⟩
    · exact .inr ⟨named, inner, declared, optional⟩
  · rintro (⟨rfl, inner, declared, relation⟩ | ⟨named, inner, declared, optional⟩)
    · exact ⟨inner, declared, .inl ⟨relation, rfl⟩⟩
    · exact ⟨inner, declared, .inr ⟨optional, named⟩⟩

/-- A constant cannot be one of the imports, since the check reserves their names. -/
theorem optionalDate_of_mem_freeNames
    {config : Config}
    (canonical : config.Canonical)
    (valid : Validity.check config = .ok ())
    {constant : String}
    (member : constant ∈ config.constants)
    (used : constant ∈ freeNames config) :
    (constant = "undefined" ∨ constant = "Date") ∧
      ∃ inner, Declares config inner ∧ inner.IsOptionalDate := by
  rcases Validity.constants_of_check valid with ⟨_, free, _⟩
  have unreserved := free constant member
  rcases (mem_freeNames_iff_cases canonical valid constant).mp used with
    ⟨_, imported⟩ | ⟨rfl, _⟩ | optional
  · rcases imported with rfl | rfl | rfl <;> exact absurd unreserved (by decide)
  · exact absurd unreserved (by decide)
  · exact optional

/--
The free names of a module are exactly the imports that it calls and, where some
date may be missing, `undefined` and `Date`.  No constant of a valid configuration
is one of them, save for those two.
-/
theorem constants_apart_from_freeNames
    {config : Config}
    (canonical : config.Canonical)
    (valid : Validity.check config = .ok ()) :
    (∀ name, name ∈ freeNames config ↔
      (config.declarations ≠ [] ∧
        (name = "defineCollection" ∨ name = "glob" ∨ name = "z")) ∨
      (name = "reference" ∧ ∃ inner, Declares config inner ∧ inner.tag = .relation) ∨
      ((name = "undefined" ∨ name = "Date") ∧
        ∃ inner, Declares config inner ∧ inner.IsOptionalDate)) ∧
    ∀ constant ∈ config.constants, constant ∈ freeNames config →
      (constant = "undefined" ∨ constant = "Date") ∧
        ∃ inner, Declares config inner ∧ inner.IsOptionalDate := by
  constructor
  · exact mem_freeNames_iff_cases canonical valid
  · intro constant member used
    exact optionalDate_of_mem_freeNames canonical valid member used

/-- A list whose one item is a date that may be missing. -/
def dayList : Document :=
  .object [
    ("field", .object [
      ("name", .string "day"),
      ("required", .boolean false),
      ("widget", .string "datetime")]),
    ("name", .string "days"),
    ("widget", .string "list")]

/-- A collection of this name, in which each entry has a list of dates that may be missing. -/
def dayConfig (name : String) : Config :=
  ⟨[⟨name, "days", [.ofItems "days" [.ofLeaf "day" false (.scalar .datetime)]], none⟩], []⟩

theorem config_dayList
    (name : String)
    (named : Text.isBlank name = false) :
    Descriptor.config none (Descriptor.documentOf name "days" [dayList]) =
      .ok (dayConfig name) := by
  have list : Descriptor.widget dayList =
      .ok (.ofItems "days" [.ofLeaf "day" false (.scalar .datetime)]) :=
    Descriptor.widgetWithin_eq_ok_iff.mpr (.list ⟨rfl, rfl, rfl⟩ rfl
      (.cons (Descriptor.widgetWithin_eq_ok_iff.mpr (.scalar ⟨rfl, rfl, rfl⟩)) .nil))
  apply Descriptor.config_documentOf named rfl
  rw [List.mapM_cons, list]
  rfl

theorem declares_day (name : String) :
    Declares (dayConfig name) (.ofLeaf "day" false (.scalar .datetime)) :=
  ⟨_, List.mem_singleton.mpr rfl, _, List.mem_singleton.mpr rfl,
    .inside (List.mem_singleton.mpr rfl) .self⟩

/-- A collection of another name is apart from `Date`, although its fields use it. -/
theorem events_not_mem_freeNames :
    "Date" ∈ freeNames (dayConfig "events") ∧
      "events" ∉ freeNames (dayConfig "events") := by
  have canonical : (dayConfig "events").Canonical :=
    Descriptor.canonical_of_config (config_dayList "events" rfl)
  have valid : Validity.check (dayConfig "events") = .ok () := rfl
  rcases constants_apart_from_freeNames canonical valid with ⟨names, constants⟩
  constructor
  · refine (names "Date").mpr (.inr (.inr ⟨.inr rfl, _, declares_day "events", rfl, rfl⟩))
  · intro used
    have special := (constants "events" (List.mem_singleton.mpr rfl) used).1
    exact absurd special (by decide)

/--
The text of a valid module consists of imports and of expressions, and none of these
expressions uses the name that the text gives to another one, unless a global of the
language has that name.
-/
theorem text_captures_no_constant
    {config : Config}
    (canonical : config.Canonical)
    (valid : Validity.check config = .ok ()) :
    text config =
        String.join (imports.map fun line => line ++ "\n") ++ "\n"
          ++ assembled config.constants (expressions config) ∧
      ∀ expression ∈ expressions config, ∀ constant ∈ config.constants,
        constant ∈ Expression.freeNames expression →
          constant = "undefined" ∨ constant = "Date" := by
  refine ⟨text_eq_assembled config, ?_⟩
  intro expression among constant member used
  have free : constant ∈ freeNames config := List.mem_flatMap.mpr ⟨expression, among, used⟩
  exact (optionalDate_of_mem_freeNames canonical valid member free).1

/-! ## Names that are captured -/

/-- A configuration whose one choice stores an expression that is not that of its options. -/
def storedConfig : Config :=
  ⟨[⟨"posts", "posts", [.leaf "kind" true (.select [] "posts")], none⟩], []⟩

/-- The stored expression stands in the definition as it is. -/
theorem posts_mem_freeNames_storedConfig :
    "posts" ∈ freeNames storedConfig := by
  have entries : Widget.entries [.leaf "kind" true (.select [] "posts")] =
      ["kind: posts"] := by
    rw [Widget.entries_eq_map, List.map_singleton, Widget.entry, Widget.expression,
      Widget.baseExpression]
    decide +kernel
  have record : schemaLines [.leaf "kind" true (.select [] "posts")] =
      "    schema: z.object(\x7b\n        kind: posts,\n    \x7d),\n" := by
    unfold schemaLines
    rw [entries]
    decide
  have used : "posts" ∈ Expression.freeNames ("defineCollection(\x7b\n"
      ++ loaderLine "posts"
      ++ "    schema: z.object(\x7b\n        kind: posts,\n    \x7d),\n" ++ "\x7d)") := by
    decide +kernel
  rw [← record] at used
  exact List.mem_append_left _ used

/--
A constant can have the name of a global that a date uses, and a name that a stored
expression uses.
-/
theorem constants_in_freeNames :
    (Descriptor.config none (Descriptor.documentOf "Date" "days" [dayList]) =
        .ok (dayConfig "Date") ∧
      Validity.check (dayConfig "Date") = .ok () ∧
      "Date" ∈ (dayConfig "Date").constants ∧
      "Date" ∈ freeNames (dayConfig "Date")) ∧
    (Validity.check storedConfig = .ok () ∧
      "posts" ∈ storedConfig.constants ∧
      "posts" ∈ freeNames storedConfig) := by
  have built := config_dayList "Date" rfl
  have canonical : (dayConfig "Date").Canonical := Descriptor.canonical_of_config built
  have shapes : ∀ constant ∈ (dayConfig "Date").constants,
      Text.hasIdentifierShape constant = true := by
    intro constant member
    rw [List.mem_singleton.mp member]
    decide +kernel
  refine ⟨⟨built, rfl, List.mem_singleton.mpr rfl, ?_⟩,
    ⟨rfl, List.mem_singleton.mpr rfl, posts_mem_freeNames_storedConfig⟩⟩
  exact (mem_freeNames_iff canonical shapes).mpr
    (.inr ⟨_, declares_day "Date", .inr ⟨⟨rfl, rfl⟩, .inr rfl⟩⟩)

end Module

end ContentSchema
