import Mathlib
import ContentSchema.Proofs.ModuleLines
import ContentSchema.Proofs.Readers

/-!
# Reading a module line by line

What stands at the start of a line tells what the line is for.  A constant is
declared on a line that starts with `const`, the directory of its entries stands as a
literal on a line that starts with the loader, and the export is the one line that
starts with `export const collections`.  The readers of this module find the names and
the directories in a text by these starts alone.  In the module of a valid
configuration they find the constants and the directories of its declarations, since
no other line starts in the same way.
-/

namespace ContentSchema

open Reading

variable {Value : Type}

/-! ## Identifiers in a text -/

namespace Text

/-- The runs of identifier characters in a text, in order. -/
def words (text : List Char) : List String :=
  ((text.splitOnP fun character => !isIdentifierPart character).filter
    fun run => !run.isEmpty).map String.ofList

@[simp]
theorem words_nil : words [] = [] := by
  simp [words]

/-- A character that belongs to no identifier divides the words of a text. -/
theorem words_append_cons
    {separator : Char}
    (divides : isIdentifierPart separator = false)
    (before after : List Char) :
    words (before ++ separator :: after) = words before ++ words after := by
  unfold words
  rw [List.splitOnP_append_cons before after (by simpa using divides), List.filter_append,
    List.map_append]

theorem words_cons
    {separator : Char}
    (divides : isIdentifierPart separator = false)
    (after : List Char) :
    words (separator :: after) = words after := by
  have split := words_append_cons divides [] after
  rwa [List.nil_append, words_nil, List.nil_append] at split

theorem words_of_shape
    {name : String}
    (shape : hasIdentifierShape name = true) :
    words name.toList = [name] := by
  have inside : ∀ character ∈ name.toList, (!isIdentifierPart character) = false := by
    intro character member
    rw [isIdentifierPart_of_mem_shape shape member]
    rfl
  have filled : name.toList.isEmpty = false :=
    List.isEmpty_eq_false_iff.mpr (toList_ne_nil_of_shape shape)
  simp [words, List.splitOnP_eq_singleton inside, filled]

/-- Names with commas between them are read off as words. -/
theorem words_intercalate
    {names : List String}
    (shapes : ∀ name ∈ names, hasIdentifierShape name = true) :
    words (String.intercalate ", " names).toList = names := by
  have comma : isIdentifierPart ',' = false := not_isIdentifierPart (by simp [delimiters])
  have blank : isIdentifierPart ' ' = false := not_isIdentifierPart (by simp [delimiters])
  induction names with
  | nil =>
      simp
  | cons first rest ih =>
      have head := words_of_shape (shapes first List.mem_cons_self)
      have tail := ih fun name member => shapes name (List.mem_cons_of_mem _ member)
      cases rest with
      | nil =>
          simpa using head
      | cons second rest =>
          have between : ", ".toList = [',', ' '] := rfl
          rw [String.intercalate_cons_cons, String.toList_append, String.toList_append,
            List.append_assoc, between, List.cons_append, words_append_cons comma, head]
          simp only [List.singleton_append, words_cons blank, tail]

end Text

open Text

/-! ## Readers of lines -/

namespace Module

/-- The lines of a text, those between its line feeds. -/
def rows (content : String) : List (List Char) :=
  content.toList.splitOn '\n'

/-- Read a value behind a lead, off a line that starts with the lead. -/
def readBehind (lead : String) (read : Reader Value) : Reader Value := fun line => do
  let after ← line.dropPrefix? lead.toList
  read after

/-- The values behind a lead, on all lines that start with it. -/
def valuesBehind (lead : String) (read : Reader Value) (content : String) : List Value :=
  (rows content).filterMap fun line => (readBehind lead read line).map Prod.fst

/-- What only the first line of a declaration starts with. -/
def constantLead : String :=
  "const "

/-- What only the line of a loader starts with; the path in the loader follows. -/
def baseLead : String :=
  "    loader: glob(\x7b pattern: \"**/*.md\", base: "

/-- What only the line of the export starts with. -/
def exportLead : String :=
  "export const collections = \x7b"

/-- The identifiers up to the closing brace. -/
def readBraced : Reader (List String) := fun text =>
  some (words (text.takeWhile (· != '\x7d')), text.dropWhile (· != '\x7d'))

/-- The names of the constants that a text declares, line by line. -/
def declaredNames (content : String) : List String :=
  valuesBehind constantLead readName content

/-- The directories from which a text loads entries, line by line. -/
def bases (content : String) : List String :=
  valuesBehind baseLead readLiteral content

/-- The names inside the braces of the export. -/
def exportedNames (content : String) : List String :=
  (valuesBehind exportLead readBraced content).flatten

/-! ## The lines of a valid module -/

/-- The rows of a module are the lines that it was put together from. -/
theorem rows_text
    {config : Config}
    (canonical : config.Canonical)
    (valid : Validity.check config = .ok ()) :
    rows (text config) = (lines config ++ [""]).map String.toList := by
  rw [rows, text_eq]
  exact splitOn_ofLines fun _ member => oneLine_of_mem_lines canonical valid member

theorem readBehind_eq_none
    {lead : String} {line : List Char}
    (apart : line.dropPrefix? lead.toList = none)
    (read : Reader Value) :
    readBehind lead read line = none := by
  rw [readBehind, apart]
  rfl

theorem readBehind_append
    (lead : String) (read : Reader Value) (rest : List Char) :
    readBehind lead read (lead.toList ++ rest) = read rest := by
  rw [readBehind, dropPrefix?_append]
  rfl

/-- Each line of a record starts in one of three ways. -/
theorem start_of_mem_recordLines
    {widgets : List Widget} {line : String}
    (member : line ∈ recordLines widgets) :
    ∃ rest, line = "    schema: " ++ rest ∨ line = "        " ++ rest ∨
      line = "    \x7d)" ++ rest := by
  cases widgets with
  | nil =>
      rw [List.mem_singleton.mp member]
      exact ⟨"z.object(\x7b\x7d),", .inl (by decide)⟩
  | cons widget widgets =>
      rcases List.mem_append.mp member with opening | closing
      · rcases List.mem_cons.mp opening with rfl | inside
        · exact ⟨"z.object(\x7b", .inl (by decide)⟩
        · rcases List.mem_map.mp inside with ⟨field, _, rfl⟩
          exact ⟨field.entry ++ ",", .inr (.inl (String.append_assoc ..))⟩
      · rw [List.mem_singleton.mp closing]
        exact ⟨",", .inr (.inr (by decide))⟩

/-- A lead that none of the lines of a record starts with, nor any other line without a value. -/
structure IsLead (lead : String) : Prop where
  opening : ∀ line ∈ openingLines, line.toList.dropPrefix? lead.toList = none
  schema : ∀ rest, ("    schema: ".toList ++ rest).dropPrefix? lead.toList = none
  field : ∀ rest, ("        ".toList ++ rest).dropPrefix? lead.toList = none
  closing : ∀ rest, ("    \x7d)".toList ++ rest).dropPrefix? lead.toList = none
  last : "\x7d);".toList.dropPrefix? lead.toList = none

theorem isLead_constantLead : IsLead constantLead where
  opening := by decide
  schema _ := rfl
  field _ := rfl
  closing _ := rfl
  last := rfl

theorem isLead_baseLead : IsLead baseLead where
  opening := by decide
  schema _ := rfl
  field _ := rfl
  closing _ := rfl
  last := rfl

theorem isLead_exportLead : IsLead exportLead where
  opening := by decide
  schema _ := rfl
  field _ := rfl
  closing _ := rfl
  last := rfl

/-- What is read off one line. -/
def valueBehind (lead : String) (read : Reader Value) (line : String) : Option Value :=
  (readBehind lead read line.toList).map Prod.fst

theorem valueBehind_append
    (lead : String) (read : Reader Value) (rest : String) :
    valueBehind lead read (lead ++ rest) = (read rest.toList).map Prod.fst := by
  rw [valueBehind, String.toList_append, readBehind_append]

theorem valueBehind_eq_none
    {lead start : String}
    (apart : ∀ rest, (start.toList ++ rest).dropPrefix? lead.toList = none)
    (read : Reader Value) (rest : String) :
    valueBehind lead read (start ++ rest) = none := by
  rw [valueBehind, String.toList_append, readBehind_eq_none (apart rest.toList)]
  rfl

section Values

variable {lead : String} (apart : IsLead lead) (read : Reader Value)

include apart

/-- No line of a record starts like one of those that are read. -/
theorem IsLead.valueBehind_of_mem_recordLines
    {widgets : List Widget} {line : String}
    (member : line ∈ recordLines widgets) :
    valueBehind lead read line = none := by
  rcases start_of_mem_recordLines member with ⟨rest, rfl | rfl | rfl⟩
  · exact valueBehind_eq_none apart.schema read rest
  · exact valueBehind_eq_none apart.field read rest
  · exact valueBehind_eq_none apart.closing read rest

/-- Off a block only the lines of the constant and of the loader can be read. -/
theorem IsLead.filterMap_blockLines (declaration : Declaration) :
    (blockLines declaration).filterMap (valueBehind lead read) =
      (valueBehind lead read
          (constantLead ++ (declaration.constant ++ " = defineCollection(\x7b"))).toList ++
        (valueBehind lead read
          (baseLead ++ (literal declaration.base ++ " \x7d),"))).toList := by
  have record : (recordLines declaration.collection.widgets).filterMap (valueBehind lead read) =
      [] := by
    rw [List.filterMap_eq_nil_iff]
    exact fun _ => apart.valueBehind_of_mem_recordLines read
  have last : valueBehind lead read "\x7d);" = none := by
    rw [valueBehind, readBehind_eq_none apart.last]
    rfl
  rw [blockLines, List.filterMap_append, List.filterMap_append, record,
    List.filterMap_eq_flatMap_toList, List.filterMap_eq_flatMap_toList]
  simp only [List.flatMap_cons, List.flatMap_nil, last, Option.toList_none, List.append_nil,
    constantLead, baseLead, String.append_assoc]

/-- The values of a module are those of its blocks, followed by that of its export. -/
theorem IsLead.valuesBehind_text
    {config : Config}
    (canonical : config.Canonical)
    (valid : Validity.check config = .ok ()) :
    valuesBehind lead read (text config) =
      (config.declarations.flatMap fun declaration =>
        (blockLines declaration).filterMap (valueBehind lead read)) ++
        (valueBehind lead read (exportStatement config.constants)).toList := by
  have opening : openingLines.filterMap (valueBehind lead read) = [] := by
    rw [List.filterMap_eq_nil_iff]
    intro line member
    rw [valueBehind, readBehind_eq_none (apart.opening line member)]
    rfl
  have empty : valueBehind lead read "" = none := by
    rw [valueBehind, readBehind_eq_none (apart.opening "" (by decide))]
    rfl
  have nothing : [""].filterMap (valueBehind lead read) = [] := by
    rw [List.filterMap_cons, empty, List.filterMap_nil]
  have only : ∀ line, [line].filterMap (valueBehind lead read) =
      (valueBehind lead read line).toList := by
    intro line
    rw [List.filterMap_eq_flatMap_toList, List.flatMap_singleton]
  rw [valuesBehind, rows_text canonical valid, List.filterMap_map]
  change (lines config ++ [""]).filterMap (valueBehind lead read) = _
  rw [List.filterMap_append, nothing, List.append_nil, lines, List.filterMap_append,
    List.filterMap_append, opening, List.nil_append, List.filterMap_flatMap, only]
  simp only [List.filterMap_append, nothing, List.append_nil]

end Values

/-- The line of a loader is read as its directory, whatever the directory is. -/
theorem readBehind_loader (base : String) :
    readBehind baseLead readLiteral (baseLead ++ (literal base ++ " \x7d),")).toList =
      some (base, " \x7d),".toList) := by
  have ends : Ends " \x7d),".toList := ⟨' ', _, rfl, by simp [endings]⟩
  rw [String.toList_append, readBehind_append, String.toList_append,
    reads_literal base _ ends]

/-! ## The export -/

/-- What stands between the braces of the export. -/
def exportInside (constants : List String) : String :=
  if constants.isEmpty then "" else " " ++ String.intercalate ", " constants ++ " "

theorem exportStatement_eq_lead (constants : List String) :
    exportStatement constants = exportLead ++ (exportInside constants ++ "\x7d;") := by
  have opening : "export const collections = \x7b " = exportLead ++ " " := by decide
  have closing : " \x7d;" = " " ++ "\x7d;" := by decide
  unfold exportStatement exportInside
  split
  · decide
  · rw [opening, closing]
    simp only [String.append_assoc]

theorem words_exportInside
    {constants : List String}
    (shapes : ∀ constant ∈ constants, hasIdentifierShape constant = true) :
    words (exportInside constants).toList = constants := by
  have divides : isIdentifierPart ' ' = false := not_isIdentifierPart (by simp [delimiters])
  have blank : " ".toList = ' ' :: [] := rfl
  unfold exportInside
  split
  · rename_i empty
    rw [List.isEmpty_iff.mp empty]
    exact words_nil
  · rw [String.toList_append, String.toList_append, blank, words_append_cons divides,
      List.singleton_append, words_cons divides, words_intercalate shapes, words_nil,
      List.append_nil]

/-- No constant holds the brace that ends the export. -/
theorem not_mem_exportInside
    {constants : List String}
    (shapes : ∀ constant ∈ constants, hasIdentifierShape constant = true) :
    '\x7d' ∉ (exportInside constants).toList := by
  unfold exportInside
  split
  · exact List.not_mem_nil
  · simp only [String.toList_append, List.mem_append, not_or]
    refine ⟨⟨by decide, not_mem_intercalate (by decide) ?_⟩, by decide⟩
    intro constant member
    exact not_mem_of_shape (shapes constant member) (by simp [delimiters])

theorem readBraced_append
    {inside : List Char}
    (clean : '\x7d' ∉ inside)
    (rest : List Char) :
    readBraced (inside ++ '\x7d' :: rest) = some (words inside, '\x7d' :: rest) := by
  have before : ∀ character ∈ inside, (character != '\x7d') = true := by
    intro character member
    exact bne_iff_ne.mpr (ne_of_mem_of_not_mem member clean)
  rw [readBraced, List.takeWhile_append_of_pos before, List.dropWhile_append_of_pos before]
  simp

/-! ## The names and directories of a valid module -/

section Valid

variable
  {config : Config}
  (canonical : config.Canonical)
  (valid : Validity.check config = .ok ())

include canonical valid

/-- The names that the blocks declare are the constants of the configuration. -/
theorem declaredNames_text : declaredNames (text config) = config.constants := by
  have block : ∀ declaration ∈ config.declarations,
      (blockLines declaration).filterMap (valueBehind constantLead readName) =
        [declaration.constant] := by
    intro declaration declared
    have shape := Validity.shape_of_check valid (List.mem_map_of_mem declared)
    have ends : Ends " = defineCollection(\x7b".toList := ⟨' ', _, rfl, by simp [endings]⟩
    rw [isLead_constantLead.filterMap_blockLines, valueBehind_append,
      valueBehind_eq_none (fun _ => rfl), String.toList_append, reads_name shape _ ends]
    rfl
  rw [declaredNames, isLead_constantLead.valuesBehind_text readName canonical valid,
    exportStatement_eq_lead, valueBehind_eq_none (fun _ => rfl), Option.toList_none,
    List.append_nil, List.flatMap_congr block, ← List.map_eq_flatMap, Config.constants]

/-- The paths in the loaders are the bases of the declarations. -/
theorem bases_text :
    bases (text config) = config.declarations.map Declaration.base := by
  have block : ∀ declaration ∈ config.declarations,
      (blockLines declaration).filterMap (valueBehind baseLead readLiteral) =
        [declaration.base] := by
    intro declaration _
    rw [isLead_baseLead.filterMap_blockLines, valueBehind_eq_none (fun _ => rfl), valueBehind,
      readBehind_loader]
    rfl
  rw [bases, isLead_baseLead.valuesBehind_text readLiteral canonical valid, exportStatement_eq_lead,
    valueBehind_eq_none (fun _ => rfl), Option.toList_none, List.append_nil,
    List.flatMap_congr block, ← List.map_eq_flatMap]

/-- The names that the export lists are the constants of the configuration. -/
theorem exportedNames_text : exportedNames (text config) = config.constants := by
  have block : ∀ declaration ∈ config.declarations,
      (blockLines declaration).filterMap (valueBehind exportLead readBraced) = [] := by
    intro declaration _
    rw [isLead_exportLead.filterMap_blockLines, valueBehind_eq_none (fun _ => rfl),
      valueBehind_eq_none (fun _ => rfl)]
    rfl
  have shapes : ∀ constant ∈ config.constants, hasIdentifierShape constant = true :=
    fun _ => Validity.shape_of_check valid
  have closing : "\x7d;".toList = '\x7d' :: [';'] := rfl
  rw [exportedNames, isLead_exportLead.valuesBehind_text readBraced canonical valid,
    exportStatement_eq_lead, valueBehind_append, String.toList_append, closing,
    readBraced_append (not_mem_exportInside shapes), words_exportInside shapes,
    List.flatMap_congr block]
  simp

end Valid

end Module

end ContentSchema
