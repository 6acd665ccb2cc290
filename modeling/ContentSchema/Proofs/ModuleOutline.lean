import Mathlib
import ContentSchema.Proofs.ConstantNames
import ContentSchema.Proofs.SchemaReading

/-!
# Modules read back

The outline of a configuration lists its declarations, each with its constant, the
directory of its entries and the names and schema trees of its fields.  A module
is written from the outline alone, and a reader for modules finds the outline
again.  So two modules have one text exactly when they declare the same: no text
of a configuration can pass for another part of the module.
-/

namespace ContentSchema

open Filter (atTop eventually_all_finite eventually_gt_atTop)
open Reading
open Text (literal)

/-! ## Outlines -/

/-- What a module says of one declaration. -/
structure Outline where
  constant : String
  base : String
  fields : List (String × Schema)
  deriving Repr

/-- What the module says of a declaration. -/
def Declaration.outline (declaration : Declaration) : Outline where
  constant := declaration.constant
  base := declaration.base
  fields := declaration.collection.widgets.map fun widget =>
    (widget.name, widget.schema)

/-- The outlines of all declarations, in order. -/
def Config.outline (config : Config) : List Outline :=
  config.declarations.map Declaration.outline

namespace Outline

/-- What a module writes of a declaration behind the word that starts it. -/
def definitionText (outline : Outline) : String :=
  outline.constant ++ " = " ++ "defineCollection(\x7b\n"
    ++ Module.loaderLine outline.base ++ "    schema: "
    ++ Expression.blockRecord Module.fieldIndent (outline.fields.map Schema.entry)
    ++ ",\n" ++ "\x7d)" ++ ";" ++ "\n\n"

/-- The module with given declarations. -/
def moduleText (outlines : List Outline) : String :=
  String.join (Module.imports.map fun line => line ++ "\n") ++ "\n"
    ++ String.join (outlines.map fun outline => "const " ++ outline.definitionText)
    ++ Module.exportStatement (outlines.map Outline.constant) ++ "\n"

/-- A declaration of canonical widgets is written as its outline is. -/
theorem definitionText_outline
    {declaration : Declaration}
    (canonical : ∀ widget ∈ declaration.collection.widgets, widget.Canonical) :
    "const " ++ declaration.outline.definitionText =
      Module.declarationText declaration ++ "\n\n" := by
  have entries : declaration.outline.fields.map Schema.entry =
      Widget.entries declaration.collection.widgets :=
    Widget.map_entry_schema canonical
  unfold definitionText Module.declarationText Module.definition Module.schemaLines
  simp only [entries]
  simp only [Declaration.outline, String.append_assoc]

/-- A module depends on the outline of its configuration only. -/
theorem moduleText_outline
    {config : Config}
    (canonical : config.Canonical) :
    moduleText config.outline = Module.text config := by
  have blocks : config.declarations.map (fun declaration =>
      "const " ++ declaration.outline.definitionText) =
        config.declarations.map fun declaration =>
          Module.declarationText declaration ++ "\n\n" := by
    apply List.map_congr_left
    intro declaration declared
    exact definitionText_outline (canonical.of_mem_declarations declared)
  have constants : config.outline.map Outline.constant = config.constants := by
    rw [Config.outline, Config.constants, List.map_map]
    rfl
  rw [moduleText, Module.text, constants, Config.outline, List.map_map]
  rw [Function.comp_def, blocks]

/-! ## The reader -/

/-- What stands between a constant and the path of its loader. -/
def loaderLead : String :=
  " = " ++ "defineCollection(\x7b\n" ++ "    loader: glob(\x7b pattern: "
    ++ literal Module.entryPattern ++ ", base: "

/-- What stands between the path of a loader and the fields. -/
def schemaLead : String :=
  " \x7d),\n" ++ "    schema: " ++ "z.object(\x7b"

/-- What stands behind the fields of a declaration. -/
def definitionEnd : String :=
  ",\n" ++ "\x7d)" ++ ";" ++ "\n\n"

/-- The fields of a record with a line for every entry, behind its opening. -/
def readLines (read : Reader Schema) (limit : Nat) : Reader (List (String × Schema)) :=
  fun text =>
    match text.dropPrefix? "\n".toList with
    | some after =>
      readUntil
        (readRepeated (Expression.indentation Module.fieldIndent)
          (readUntil (Schema.readField read) ",\n") limit)
        (Expression.indentation (Module.fieldIndent - 4) ++ "\x7d)") after
    | none => do
      let rest ← text.dropPrefix? "\x7d)".toList
      return ([], rest)

/--
A declaration is its constant, the path of its loader and its fields, with fixed text
around each.
-/
def readDefinition (limit : Nat) : Reader Outline := fun text => do
  let (constant, text) ← readUntil readName loaderLead text
  let (base, text) ← readUntil readLiteral schemaLead text
  let (fields, text) ← readUntil (readLines (Schema.readWithin limit) limit) definitionEnd text
  return (⟨constant, base, fields⟩, text)

/--
A module is the fixed lines that import names and then its declarations; what it exports
is not read.
-/
def readModule (limit : Nat) (text : List Char) : Option (List Outline) := do
  let text ← text.dropPrefix?
    (String.join (Module.imports.map fun line => line ++ "\n") ++ "\n").toList
  let (outlines, _) ← readRepeated "const " (readDefinition limit) limit text
  return outlines

/-! ## Reading what was written -/

/-- A record with a line for every field, behind its opening. -/
def blockBody (fields : List (String × Schema)) : String :=
  if fields.isEmpty then "\x7d)"
  else
    "\n" ++ String.join (fields.map fun field =>
      Expression.indentation Module.fieldIndent ++ (Schema.entry field ++ ",\n"))
      ++ (Expression.indentation (Module.fieldIndent - 4) ++ "\x7d)")

theorem blockRecord_eq (fields : List (String × Schema)) :
    Expression.blockRecord Module.fieldIndent (fields.map Schema.entry) =
      "z.object(\x7b" ++ blockBody fields := by
  cases fields with
  | nil =>
      rfl
  | cons field fields =>
      have opening : "z.object(\x7b\n" = "z.object(\x7b" ++ "\n" := by decide
      unfold Expression.blockRecord blockBody
      simp only [List.map_cons, List.isEmpty_cons, Bool.false_eq_true, if_false,
        List.map_map, Function.comp_def]
      simp only [opening, String.append_assoc]

theorem reads_line
    {read : Reader Schema}
    {field : String × Schema}
    (reads : Reads read field.2.expression.toList field.2)
    (rest : List Char) :
    readUntil (Schema.readField read) ",\n"
        ((Schema.entry field ++ ",\n").toList ++ rest) =
      some (field, rest) := by
  have ends : Ends (",\n".toList ++ rest) :=
    ⟨',', '\n' :: rest, rfl, by simp [endings]⟩
  rw [String.toList_append, List.append_assoc]
  exact readUntil_eq_some (Schema.reads_field reads _ ends)

/-- The lines of a record are read back as long as the limit exceeds their number. -/
theorem readLines_blockBody
    {read : Reader Schema}
    {limit : Nat}
    {fields : List (String × Schema)}
    (reads : ∀ field ∈ fields, Reads read field.2.expression.toList field.2)
    (enough : fields.length < limit)
    (rest : List Char) :
    readLines read limit ((blockBody fields).toList ++ rest) = some (fields, rest) := by
  cases fields with
  | nil =>
      have noLine : ("\x7d)".toList ++ rest).dropPrefix? "\n".toList = none := rfl
      change readLines read limit ("\x7d)".toList ++ rest) = _
      rw [readLines, noLine]
      simp only [dropPrefix?_append, Option.bind_eq_bind, Option.bind_some,
        Option.pure_def]
  | cons first others =>
      have noField : ((Expression.indentation (Module.fieldIndent - 4) ++ "\x7d)").toList
          ++ rest).dropPrefix? (Expression.indentation Module.fieldIndent).toList =
            none := by
        have outer : Expression.indentation (Module.fieldIndent - 4) = "    " := by decide
        have inner : Expression.indentation Module.fieldIndent = "        " := by decide
        rw [outer, inner, String.toList_append, List.append_assoc]
        rfl
      have lines := readRepeated_join
        (fun field member => reads_line (reads field member)) noField enough
      simp only [blockBody, List.isEmpty_cons, Bool.false_eq_true, if_false,
        String.append_assoc]
      rw [String.toList_append, String.toList_append, List.append_assoc,
        List.append_assoc, readLines, dropPrefix?_append]
      exact readUntil_eq_some lines

/-- The text of a declaration, bracketed as the reader takes it apart. -/
theorem definitionText_eq (outline : Outline) :
    outline.definitionText =
      outline.constant ++ (loaderLead ++ (literal outline.base ++
        (schemaLead ++ (blockBody outline.fields ++ definitionEnd)))) := by
  unfold definitionText loaderLead schemaLead definitionEnd Module.loaderLine
  simp only [blockRecord_eq, String.append_assoc]

theorem ends_loaderLead (rest : List Char) :
    Ends (loaderLead.toList ++ rest) := by
  unfold loaderLead
  simp only [String.toList_append, List.append_assoc]
  exact ⟨' ', _, rfl, by simp [endings]⟩

theorem ends_schemaLead (rest : List Char) :
    Ends (schemaLead.toList ++ rest) := by
  unfold schemaLead
  simp only [String.toList_append, List.append_assoc]
  exact ⟨' ', _, rfl, by simp [endings]⟩

/-- A declaration is read back when its constant is a name and its fields are readable. -/
theorem readDefinition_definitionText
    {limit : Nat}
    {outline : Outline}
    (shape : Text.hasIdentifierShape outline.constant = true)
    (reads : ∀ field ∈ outline.fields,
      Reads (Schema.readWithin limit) field.2.expression.toList field.2)
    (enough : outline.fields.length < limit)
    (rest : List Char) :
    readDefinition limit (outline.definitionText.toList ++ rest) =
      some (outline, rest) := by
  rw [definitionText_eq]
  simp only [String.toList_append, List.append_assoc]
  have constant := readUntil_eq_some (reads_name shape _ (ends_loaderLead
    ((literal outline.base).toList ++ (schemaLead.toList ++
      ((blockBody outline.fields).toList ++ (definitionEnd.toList ++ rest))))))
  have base := readUntil_eq_some (reads_literal outline.base _ (ends_schemaLead
    ((blockBody outline.fields).toList ++ (definitionEnd.toList ++ rest))))
  have fields := readUntil_eq_some
    (readLines_blockBody reads enough (definitionEnd.toList ++ rest))
  rw [readDefinition, constant]
  simp only [Option.bind_eq_bind, Option.bind_some, base, fields, Option.pure_def]

/-- With a limit that is high enough, the outline of a module is found again. -/
theorem eventually_readModule
    {outlines : List Outline}
    (shapes : ∀ outline ∈ outlines, Text.hasIdentifierShape outline.constant = true) :
    ∀ᶠ limit in atTop, readModule limit (moduleText outlines).toList = some outlines := by
  have fields : ∀ᶠ limit in atTop, ∀ outline ∈ {outline | outline ∈ outlines},
      ∀ field ∈ {field | field ∈ outline.fields},
        Reads (Schema.readWithin limit) field.2.expression.toList field.2 := by
    apply (eventually_all_finite outlines.finite_toSet).mpr
    intro outline _
    apply (eventually_all_finite outline.fields.finite_toSet).mpr
    intro field _
    exact (Schema.readable field.2).reads
  have lengths : ∀ᶠ limit in atTop, ∀ outline ∈ {outline | outline ∈ outlines},
      outline.fields.length < limit := by
    apply (eventually_all_finite outlines.finite_toSet).mpr
    intro outline _
    exact eventually_gt_atTop outline.fields.length
  filter_upwards [fields, lengths, eventually_gt_atTop outlines.length] with
    limit reads enough many
  have stop : ((Module.exportStatement (outlines.map Outline.constant)).toList ++
      "\n".toList).dropPrefix? "const ".toList = none := by
    unfold Module.exportStatement
    split
    · rfl
    · simp only [String.toList_append, List.append_assoc]
      rfl
  have definitions := readRepeated_join
    (fun outline member rest => readDefinition_definitionText (shapes outline member)
      (reads outline member) (enough outline member) rest) stop many
  unfold moduleText
  rw [String.toList_append, String.toList_append, String.toList_append,
    List.append_assoc, List.append_assoc, readModule, dropPrefix?_append]
  simp only [Option.bind_eq_bind, Option.bind_some, definitions, Option.pure_def]

end Outline

/-! ## Unique readability -/

theorem Config.shape_of_mem_outline
    {config : Config}
    (valid : Validity.check config = .ok ())
    {outline : Outline}
    (member : outline ∈ config.outline) :
    Text.hasIdentifierShape outline.constant = true := by
  rcases List.mem_map.mp member with ⟨declaration, declared, rfl⟩
  exact Validity.shape_of_check valid (List.mem_map_of_mem declared)

/--
Two configurations that were converted from documents and are valid have one module
text exactly when they have one outline.
-/
theorem Module.content_eq_iff_outline_eq
    {firstLead secondLead : Option String}
    {firstDocument secondDocument : Document}
    {first second : Config}
    (firstBuilt : Descriptor.config firstLead firstDocument = .ok first)
    (firstValid : Validity.check first = .ok ())
    (secondBuilt : Descriptor.config secondLead secondDocument = .ok second)
    (secondValid : Validity.check second = .ok ()) :
    (Module.ofConfig first).content = (Module.ofConfig second).content ↔
      first.outline = second.outline := by
  have firstText := Outline.moduleText_outline (Descriptor.canonical_of_config firstBuilt)
  have secondText :=
    Outline.moduleText_outline (Descriptor.canonical_of_config secondBuilt)
  change Module.text first = Module.text second ↔ _
  rw [← firstText, ← secondText]
  constructor
  · intro same
    have readsFirst := Outline.eventually_readModule
      fun _ member => Config.shape_of_mem_outline firstValid member
    have readsSecond := Outline.eventually_readModule
      fun _ member => Config.shape_of_mem_outline secondValid member
    rcases (readsFirst.and readsSecond).exists with ⟨limit, foundFirst, foundSecond⟩
    rw [same, foundSecond] at foundFirst
    exact (Option.some.inj foundFirst).symm
  · intro same
    rw [same]

/-- A choice between options. -/
def Descriptor.choiceOf (options : List String) : Document :=
  .object [
    ("name", .string "kind"),
    ("options", .array (options.map .string)),
    ("widget", .string "select")]

/-- The configuration with such a choice as its one field. -/
def Config.ofChoice (options : List String) : Config :=
  ⟨[⟨"posts", "posts", [.ofLeaf "kind" true (.selectOf options)], none⟩], []⟩

/-- A single choice has its options in the outline, apart from each other. -/
theorem Config.outline_ofChoice (options : List String) :
    (Config.ofChoice options).outline =
      [⟨"posts", "posts", [("kind", .oneOf options)]⟩] := by
  have schema : (Widget.ofLeaf "kind" true (.selectOf options)).schema =
      .oneOf options := by
    unfold Widget.ofLeaf Widget.schema
    rw [Widget.baseSchema]
    rfl
  change [Outline.mk "posts" "posts" [("kind", Widget.schema _)]] = _
  rw [schema]

/-- One option with a quote and a comma in it is not written like two options. -/
theorem Module.content_ofChoice_ne :
    (Module.ofConfig (Config.ofChoice ["a\", \"b"])).content ≠
      (Module.ofConfig (Config.ofChoice ["a", "b"])).content := by
  have one : Descriptor.widget (Descriptor.choiceOf ["a\", \"b"]) =
      .ok (.ofLeaf "kind" true (.selectOf ["a\", \"b"])) :=
    Descriptor.widgetWithin_eq_ok_iff.mpr (.select ⟨rfl, rfl, rfl⟩ rfl)
  have two : Descriptor.widget (Descriptor.choiceOf ["a", "b"]) =
      .ok (.ofLeaf "kind" true (.selectOf ["a", "b"])) :=
    Descriptor.widgetWithin_eq_ok_iff.mpr (.select ⟨rfl, rfl, rfl⟩ rfl)
  have oneBuilt : Descriptor.config none
      (Descriptor.documentOf "posts" "posts" [Descriptor.choiceOf ["a\", \"b"]]) =
        .ok (Config.ofChoice ["a\", \"b"]) := by
    apply Descriptor.config_documentOf rfl rfl
    rw [List.mapM_cons, one]
    rfl
  have twoBuilt : Descriptor.config none
      (Descriptor.documentOf "posts" "posts" [Descriptor.choiceOf ["a", "b"]]) =
        .ok (Config.ofChoice ["a", "b"]) := by
    apply Descriptor.config_documentOf rfl rfl
    rw [List.mapM_cons, two]
    rfl
  intro same
  have outlines := (Module.content_eq_iff_outline_eq
    oneBuilt rfl twoBuilt rfl).mp same
  rw [Config.outline_ofChoice, Config.outline_ofChoice] at outlines
  simp at outlines

end ContentSchema
