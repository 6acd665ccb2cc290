import Mathlib
import ContentSchema.Proofs.ConstantNames
import ContentSchema.Proofs.LiteralReading
import ContentSchema.Proofs.IdentifierShape
import ContentSchema.Proofs.SchemaTree

/-!
# The lines of a module

The lines that a module has by design are those that one gets by splitting its
text at line feeds.  What comes from a configuration is written as a literal, in
which every line feed is escaped, or bare where it has the shape of an identifier;
so no name, folder, option or target adds a line or breaks one.
-/

namespace ContentSchema

open Text (literal hasIdentifierShape)

/-! ## Texts without line feeds -/

namespace Text

/-- A text without line feeds. -/
def OneLine (text : String) : Prop :=
  '\n' ∉ text.toList

/-- Whether a text is one line is decided over its characters. -/
instance (text : String) : Decidable (OneLine text) :=
  inferInstanceAs (Decidable ('\n' ∉ text.toList))

@[simp]
theorem oneLine_append {first second : String} :
    OneLine (first ++ second) ↔ OneLine first ∧ OneLine second := by
  simp [OneLine]

theorem not_mem_intercalate
    {character : Char}
    {separator : String}
    {parts : List String}
    (between : character ∉ separator.toList)
    (each : ∀ part ∈ parts, character ∉ part.toList) :
    character ∉ (String.intercalate separator parts).toList := by
  induction parts with
  | nil =>
      simp
  | cons first rest ih =>
      have head := each first List.mem_cons_self
      have tail := ih fun part member => each part (List.mem_cons_of_mem _ member)
      cases rest with
      | nil =>
          simpa using head
      | cons second rest =>
          rw [String.intercalate_cons_cons]
          simp only [String.toList_append, List.mem_append, not_or]
          exact ⟨⟨head, between⟩, tail⟩

theorem oneLine_intercalate
    {separator : String}
    {parts : List String}
    (between : OneLine separator)
    (each : ∀ part ∈ parts, OneLine part) :
    OneLine (String.intercalate separator parts) :=
  not_mem_intercalate between each

/-- Whatever the text, its literal has no line feed. -/
theorem oneLine_literal (text : String) :
    OneLine (literal text) :=
  not_mem_literal (by decide) text

theorem oneLine_of_shape
    {text : String}
    (shape : hasIdentifierShape text = true) :
    OneLine text :=
  not_mem_of_shape shape (by simp [delimiters])

end Text

open Text

/-- A key is one line, since one that is no name is quoted. -/
theorem Expression.oneLine_key (name : String) :
    OneLine (Expression.key name) := by
  unfold Expression.key
  split
  · rename_i shape
    exact oneLine_of_shape shape
  · exact oneLine_literal name

namespace Schema

/-- A schema is written in one line, however deep it nests. -/
theorem oneLine_expression (schema : Schema) :
    OneLine schema.expression := by
  induction schema using Schema.induction with
  | atom kind =>
      cases kind <;> decide
  | oneOf options =>
      simp only [expression, Expression.oneOf, oneLine_append]
      refine ⟨⟨by decide, oneLine_intercalate (by decide) ?_⟩, by decide⟩
      intro part member
      rcases List.mem_map.mp member with ⟨option, _, rfl⟩
      exact oneLine_literal option
  | reference collection =>
      simp only [expression, Expression.referenceTo, oneLine_append]
      exact ⟨⟨by decide, oneLine_literal collection⟩, by decide⟩
  | array item ih =>
      simp only [expression, Expression.arrayOf, oneLine_append]
      exact ⟨⟨by decide, ih⟩, by decide⟩
  | record fields ih =>
      simp only [expression, Expression.inlineRecord]
      split
      · decide
      · simp only [oneLine_append]
        refine ⟨⟨by decide, oneLine_intercalate (by decide) ?_⟩, by decide⟩
        rw [entries_eq_map]
        intro part member
        rcases List.mem_map.mp member with ⟨field, inside, rfl⟩
        simp only [entry, oneLine_append]
        exact ⟨⟨Expression.oneLine_key field.1, by decide⟩, ih field inside⟩
  | optional schema ih =>
      simp only [expression, oneLine_append]
      exact ⟨ih, by decide⟩

end Schema

/-- The entry of a canonical widget is one line, at any depth of lists. -/
theorem Widget.Canonical.oneLine_entry
    {widget : Widget}
    (canonical : widget.Canonical) :
    OneLine widget.entry := by
  rw [← canonical.entry_schema]
  simp only [Schema.entry, oneLine_append]
  exact ⟨⟨Expression.oneLine_key widget.name, by decide⟩, widget.schema.oneLine_expression⟩

/-! ## Lines and their text -/

/-- The text of lines, each of which ends with a line feed. -/
def Text.ofLines (lines : List String) : String :=
  String.join (lines.map fun line => line ++ "\n")

theorem Text.ofLines_singleton (line : String) :
    ofLines [line] = line ++ "\n" := by
  simp [ofLines]

theorem Text.ofLines_cons (line : String) (lines : List String) :
    ofLines (line :: lines) = ofLines [line] ++ ofLines lines := by
  simp [ofLines]

theorem Text.ofLines_append (first second : List String) :
    ofLines (first ++ second) = ofLines first ++ ofLines second := by
  simp [ofLines, String.join_append]

theorem Text.toList_ofLines_cons (line : String) (lines : List String) :
    (ofLines (line :: lines)).toList = line.toList ++ '\n' :: (ofLines lines).toList := by
  rw [ofLines_cons, ofLines_singleton]
  simp

/-- Splitting gives the lines back, and what stands behind the last line feed. -/
theorem Text.splitOn_ofLines_append
    {lines : List String} {last : String}
    (each : ∀ line ∈ lines, OneLine line)
    (alone : OneLine last) :
    (ofLines lines ++ last).toList.splitOn '\n' = (lines ++ [last]).map String.toList := by
  induction lines with
  | nil =>
      simpa [ofLines] using List.splitOn_eq_singleton alone
  | cons line lines ih =>
      have clean := each line List.mem_cons_self
      have rest := ih fun other member => each other (List.mem_cons_of_mem _ member)
      rw [String.toList_append] at rest
      rw [String.toList_append, toList_ofLines_cons, List.append_assoc, List.cons_append,
        List.splitOn_append_cons_self_of_not_mem clean, rest, List.cons_append, List.map_cons]

/--
Lines joined with a line feed behind each are split into the same lines, with nothing
behind the last.
-/
theorem Text.splitOn_ofLines
    {lines : List String}
    (each : ∀ line ∈ lines, OneLine line) :
    (ofLines lines).toList.splitOn '\n' = (lines ++ [""]).map String.toList := by
  have empty : OneLine "" := by decide
  have split := splitOn_ofLines_append each empty
  rwa [String.append_empty] at split

/-- As many line feeds as lines, if no line holds one itself. -/
theorem Text.count_ofLines
    {lines : List String}
    (each : ∀ line ∈ lines, OneLine line) :
    (ofLines lines).toList.count '\n' = lines.length := by
  induction lines with
  | nil =>
      rfl
  | cons line lines ih =>
      have none := List.count_eq_zero_of_not_mem (each line List.mem_cons_self)
      have rest := ih fun other member => each other (List.mem_cons_of_mem _ member)
      rw [toList_ofLines_cons, List.count_append, none, List.count_cons_self, rest,
        Nat.zero_add, List.length_cons]

/-- A record over several lines has one for each entry between the first and the last. -/
theorem Expression.blockRecord_eq
    (indent : Nat)
    {entries : List String}
    (filled : entries ≠ []) :
    blockRecord indent entries =
      ofLines ("z.object(\x7b" :: entries.map fun entry => indentation indent ++ entry ++ ",")
        ++ (indentation (indent - 4) ++ "\x7d)") := by
  have opening : "z.object(\x7b\n" = ofLines ["z.object(\x7b"] := by decide
  have ending : ",\n" = "," ++ "\n" := by decide
  rw [blockRecord, if_neg (by simpa using filled), ofLines_cons, opening, ending]
  simp only [ofLines, List.map_map, Function.comp_def, String.append_assoc]

/-! ## The lines of a module by design -/

namespace Module

/-- The lines of the record of a collection; each field has a line of its own. -/
def recordLines : List Widget → List String
  | [] => ["    schema: z.object(\x7b\x7d),"]
  | widgets =>
    "    schema: z.object(\x7b"
      :: (widgets.map fun widget => "        " ++ widget.entry ++ ",") ++ ["    \x7d),"]

/-- The lines of a declaration. -/
def blockLines (declaration : Declaration) : List String :=
  [ "const " ++ declaration.constant ++ " = defineCollection(\x7b",
    "    loader: glob(\x7b pattern: \"**/*.md\", base: " ++ literal declaration.base
      ++ " \x7d)," ]
    ++ recordLines declaration.collection.widgets ++ ["\x7d);"]

/-- The lines before the first declaration. -/
def openingLines : List String :=
  [ "import \x7b defineCollection, z, reference \x7d from \"astro:content\";",
    "import \x7b glob \x7d from \"astro/loaders\";",
    "" ]

/-- The lines of the module of a configuration. -/
def lines (config : Config) : List String :=
  openingLines
    ++ (config.declarations.flatMap fun declaration => blockLines declaration ++ [""])
    ++ [exportStatement config.constants]

/-- Five lines besides those of the fields, but only four where there are no fields. -/
theorem length_blockLines (declaration : Declaration) :
    (blockLines declaration).length =
      if declaration.collection.widgets = [] then 4
      else 5 + declaration.collection.widgets.length := by
  cases fields : declaration.collection.widgets with
  | nil =>
      simp [blockLines, recordLines, fields]
  | cons widget widgets =>
      simp [blockLines, recordLines, fields]
      omega

/-- The number of lines is that of the blocks, with a blank line behind each, and four more. -/
theorem length_lines (config : Config) :
    (lines config).length =
      3 + (config.declarations.map fun declaration =>
        (blockLines declaration).length + 1).sum + 1 := by
  simp [lines, openingLines, List.length_flatMap]
  omega

/--
The schema of a declaration is a line for each widget between two more, or one line if
there are no widgets.
-/
theorem schemaLines_eq (widgets : List Widget) :
    schemaLines widgets = Text.ofLines (recordLines widgets) := by
  cases widgets with
  | nil =>
      rw [schemaLines, Widget.entries_eq_map]
      decide
  | cons widget widgets =>
      have indent : Expression.indentation fieldIndent = "        " := by decide
      have opening : Text.ofLines ["    schema: z.object(\x7b"] =
          "    schema: " ++ Text.ofLines ["z.object(\x7b"] := by
        decide
      have closing : Text.ofLines ["    \x7d),"] =
          Expression.indentation (fieldIndent - 4) ++ "\x7d)" ++ ",\n" := by
        decide
      have record := Expression.blockRecord_eq fieldIndent
        (List.cons_ne_nil widget.entry (widgets.map Widget.entry))
      rw [schemaLines, Widget.entries_eq_map, List.map_cons, record, indent]
      change _ = Text.ofLines (["    schema: z.object(\x7b"] ++ List.map _ (widget :: widgets)
        ++ ["    \x7d),"])
      rw [Text.ofLines_append, Text.ofLines_append, opening, closing, ← List.map_cons,
        List.map_map, Text.ofLines_cons]
      simp only [String.append_assoc]
      rfl

theorem loaderLine_eq (base : String) :
    loaderLine base =
      Text.ofLines ["    loader: glob(\x7b pattern: \"**/*.md\", base: " ++ literal base
        ++ " \x7d),"] := by
  have opening : "    loader: glob(\x7b pattern: " ++ literal entryPattern ++ ", base: " =
      "    loader: glob(\x7b pattern: \"**/*.md\", base: " := by
    decide
  have closing : " \x7d),\n" = " \x7d)," ++ "\n" := by decide
  unfold loaderLine
  rw [Text.ofLines_singleton]
  simp only [opening, closing]
  simp only [String.append_assoc]

/-- A declaration is the lines of its block. -/
theorem declarationText_eq (declaration : Declaration) :
    declarationText declaration ++ "\n" = Text.ofLines (blockLines declaration) := by
  have opening : Text.ofLines
      ["const " ++ declaration.constant ++ " = defineCollection(\x7b"] =
        "const " ++ (declaration.constant ++ (" = " ++ "defineCollection(\x7b\n")) := by
    have ending : " = defineCollection(\x7b" ++ "\n" = " = " ++ "defineCollection(\x7b\n" := by
      decide
    rw [Text.ofLines_singleton]
    simp only [String.append_assoc, ending]
  have closing : Text.ofLines ["\x7d);"] = "\x7d)" ++ (";" ++ "\n") := by decide
  rw [blockLines, Text.ofLines_append, Text.ofLines_append, Text.ofLines_cons, opening,
    closing, ← loaderLine_eq, ← schemaLines_eq]
  unfold declarationText definition
  simp only [String.append_assoc]

theorem ofLines_blocks (declarations : List Declaration) :
    Text.ofLines (declarations.flatMap fun declaration =>
        blockLines declaration ++ [""]) =
      String.join (declarations.map fun declaration =>
        declarationText declaration ++ "\n\n") := by
  have empty : "\n\n" = "\n" ++ Text.ofLines [""] := by decide
  induction declarations with
  | nil =>
      rfl
  | cons declaration declarations ih =>
      rw [List.flatMap_cons, Text.ofLines_append, Text.ofLines_append, ih,
        ← declarationText_eq, List.map_cons, String.join_cons]
      simp only [empty, String.append_assoc]

/-- The text of a module is that of its lines, whatever the configuration holds. -/
theorem text_eq (config : Config) :
    text config = Text.ofLines (lines config) := by
  have start : String.join (imports.map fun line => line ++ "\n") ++ "\n" =
      Text.ofLines openingLines := by
    decide
  rw [lines, Text.ofLines_append, Text.ofLines_append, ofLines_blocks, ← start,
    Text.ofLines_singleton]
  simp only [text, String.append_assoc]

/-! ## Splitting -/

theorem oneLine_of_mem_recordLines
    {widgets : List Widget}
    (canonical : ∀ widget ∈ widgets, widget.Canonical)
    {line : String}
    (member : line ∈ recordLines widgets) :
    OneLine line := by
  cases widgets with
  | nil =>
      rw [List.mem_singleton.mp member]
      decide
  | cons widget widgets =>
      rcases List.mem_append.mp member with opening | closing
      · rcases List.mem_cons.mp opening with rfl | inside
        · decide
        · rcases List.mem_map.mp inside with ⟨field, held, rfl⟩
          simp only [oneLine_append]
          exact ⟨⟨by decide, (canonical field held).oneLine_entry⟩, by decide⟩
      · rw [List.mem_singleton.mp closing]
        decide

theorem oneLine_of_mem_blockLines
    {declaration : Declaration}
    (shape : hasIdentifierShape declaration.constant = true)
    (canonical : ∀ widget ∈ declaration.collection.widgets, widget.Canonical)
    {line : String}
    (member : line ∈ blockLines declaration) :
    OneLine line := by
  simp only [blockLines, List.mem_append, List.mem_cons, List.not_mem_nil, or_false]
    at member
  rcases member with ((rfl | rfl) | record) | rfl
  · simp only [oneLine_append]
    exact ⟨⟨by decide, oneLine_of_shape shape⟩, by decide⟩
  · simp only [oneLine_append]
    exact ⟨⟨by decide, oneLine_literal declaration.base⟩, by decide⟩
  · exact oneLine_of_mem_recordLines canonical record
  · decide

theorem oneLine_exportStatement
    {constants : List String}
    (shapes : ∀ constant ∈ constants, hasIdentifierShape constant = true) :
    OneLine (exportStatement constants) := by
  unfold exportStatement
  split
  · decide
  · simp only [oneLine_append]
    refine ⟨⟨by decide, oneLine_intercalate (by decide) ?_⟩, by decide⟩
    intro constant member
    exact oneLine_of_shape (shapes constant member)

/-- No line of a valid configuration is broken by what the configuration holds. -/
theorem oneLine_of_mem_lines
    {config : Config}
    (canonical : config.Canonical)
    (valid : Validity.check config = .ok ())
    {line : String}
    (member : line ∈ lines config) :
    OneLine line := by
  rcases List.mem_append.mp member with start | exported
  · rcases List.mem_append.mp start with imported | block
    · have opening : ∀ line ∈ openingLines, OneLine line := by decide
      exact opening line imported
    · rcases List.mem_flatMap.mp block with ⟨declaration, declared, inside⟩
      rcases List.mem_append.mp inside with written | empty
      · have shape := Validity.shape_of_check valid (List.mem_map_of_mem declared)
        exact oneLine_of_mem_blockLines shape
          (canonical.of_mem_declarations declared) written
      · rw [List.mem_singleton.mp empty]
        decide
  · rw [List.mem_singleton.mp exported]
    apply oneLine_exportStatement
    intro constant
    exact Validity.shape_of_check valid

/--
Splitting a module at line feeds gives its lines and nothing else: the imports, a
block for each declaration followed by an empty line, and the export.  The numbers
of lines depend on the numbers of fields only.
-/
theorem splitOn_content_eq_lines
    {lead : Option String}
    {document : Document}
    {config : Config}
    (built : Descriptor.config lead document = .ok config)
    (valid : Validity.check config = .ok ()) :
    (ofConfig config).content.toList.splitOn '\n' =
        (lines config ++ [""]).map String.toList ∧
      (∀ declaration ∈ config.declarations,
        (blockLines declaration).length =
          if declaration.collection.widgets = [] then 4
          else 5 + declaration.collection.widgets.length) ∧
      (ofConfig config).content.toList.count '\n' =
        3 + (config.declarations.map fun declaration =>
          (blockLines declaration).length + 1).sum + 1 := by
  have canonical := Descriptor.canonical_of_config built
  have each : ∀ line ∈ lines config, OneLine line := by
    intro line member
    exact oneLine_of_mem_lines canonical valid member
  change (text config).toList.splitOn '\n' = _ ∧ _ ∧
    (text config).toList.count '\n' = _
  rw [text_eq, splitOn_ofLines each, count_ofLines each, length_lines]
  refine ⟨rfl, ?_, rfl⟩
  intro declaration _
  exact length_blockLines declaration

/-- A choice whose options hold a line feed and what looks like the end of a block. -/
def lineFeedChoice : Document :=
  .object [
    ("name", .string "kind"),
    ("options", .array [.string "c\n\x7d);", .string "d"]),
    ("widget", .string "select")]

/-- A list with a line feed in its name, of a choice with line feeds of its own. -/
def lineFeedList : Document :=
  .object [
    ("field", lineFeedChoice),
    ("name", .string "b\n"),
    ("widget", .string "list")]

/-- The configuration with `lineFeedList` as its one field, in a folder with a line feed. -/
def lineFeedConfig : Config :=
  ⟨[⟨"posts", "a\nconst posts",
    [.ofItems "b\n" [.ofLeaf "kind" true (.selectOf ["c\n\x7d);", "d"])]], none⟩], []⟩

theorem widget_lineFeedList :
    Descriptor.widget lineFeedList =
      .ok (.ofItems "b\n" [.ofLeaf "kind" true (.selectOf ["c\n\x7d);", "d"])]) := by
  have choice : Descriptor.widgetWithin 31 lineFeedChoice =
      .ok (.ofLeaf "kind" true (.selectOf ["c\n\x7d);", "d"])) :=
    Descriptor.widgetWithin_eq_ok_iff.mpr (.select ⟨rfl, rfl, rfl⟩ rfl)
  exact Descriptor.widgetWithin_eq_ok_iff.mpr
    (.list ⟨rfl, rfl, rfl⟩ rfl (.cons choice .nil))

/-- Three lines, a block of six with an empty line behind it, and the export. -/
theorem count_lineFeedConfig :
    (ofConfig lineFeedConfig).content.toList.count '\n' = 11 := by
  have built : Descriptor.config none
      (Descriptor.documentOf "posts" "a\nconst posts" [lineFeedList]) =
        .ok lineFeedConfig := by
    apply Descriptor.config_documentOf rfl rfl
    rw [List.mapM_cons, widget_lineFeedList]
    rfl
  have valid : Validity.check lineFeedConfig = .ok () := rfl
  rw [(splitOn_content_eq_lines built valid).2.2]
  rfl

end Module

end ContentSchema
