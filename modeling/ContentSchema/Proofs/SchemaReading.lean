import Mathlib
import ContentSchema.Proofs.Readers
import ContentSchema.Proofs.SchemaTree

/-!
# Schema expressions read back

A reader for the whole grammar of schema expressions.  Records and lists nest, so
the reader takes a limit, which bounds the depth of what it reads and the number
of parts of a list; with a limit that is high enough it returns the tree that was
written.  As the limit only has to be high enough, two trees with one expression
are equal.

The optional mark stands behind a schema, and the expression of a text begins
that of a UUID.  The induction over trees therefore does not fix what follows an
expression: it says that reading goes on with the marks that stand there, as long
as nothing turns a text into a UUID.
-/

namespace ContentSchema.Schema

open Filter (atTop eventually_map eventually_ge_atTop eventually_all_finite map_add_atTop_eq_nat)
open Reading
open Text (literal)

/-! ## The reader -/

/-- A schema without parts is read as its own expression. -/
def readAtom (kind : Atom) : Reader Schema := fun text => do
  let rest ← text.dropPrefix? kind.expression.toList
  return (.atom kind, rest)

/-- The options of a choice, up to the end of its expression. -/
def readOptions (limit : Nat) : Reader Schema := fun text =>
  match readUntil (readMany readLiteral limit) "])" text with
  | some (options, rest) => some (.oneOf options, rest)
  | none => do
    let rest ← text.dropPrefix? "])".toList
    return (.oneOf [], rest)

/-- The collection of a relation, and the parenthesis behind it. -/
def readTarget : Reader Schema := fun text => do
  let (collection, rest) ← readUntil readLiteral ")" text
  return (.reference collection, rest)

/-- The item of an array, and the parenthesis behind it. -/
def readElement (read : Reader Schema) : Reader Schema := fun text => do
  let (item, rest) ← readUntil read ")" text
  return (.array item, rest)

/-- A field is a key, a colon and a schema. -/
def readField (read : Reader Schema) : Reader (String × Schema) := fun text => do
  let (name, after) ← readUntil readKey ": " text
  let (schema, rest) ← read after
  return ((name, schema), rest)

/-- The entries of a record, up to the end of its expression. -/
def readFields (read : Reader Schema) (limit : Nat) : Reader Schema := fun text =>
  match text.dropPrefix? " ".toList with
  | some after => do
    let (fields, rest) ← readUntil (readMany (readField read) limit) " \x7d)" after
    return (.record fields, rest)
  | none => do
    let rest ← text.dropPrefix? "\x7d)".toList
    return (.record [], rest)

/-- A schema before its marks; three characters tell which it is, except for a UUID. -/
def readCore (read : Reader Schema) (limit : Nat) : Reader Schema := fun text =>
  match text.take 3 with
  | ['z', '.', 's'] => (readAtom .uuid text).or (readAtom .text text)
  | ['z', '.', 'n'] => readAtom .number text
  | ['z', '.', 'b'] => readAtom .boolean text
  | ['z', '.', 'c'] => readAtom .requiredDate text
  | ['z', '.', 'u'] => readAtom .optionalDate text
  | ['z', '.', 'e'] => (text.dropPrefix? "z.enum([".toList).bind (readOptions limit)
  | ['r', 'e', 'f'] => (text.dropPrefix? "reference(".toList).bind readTarget
  | ['z', '.', 'a'] => (text.dropPrefix? "z.array(".toList).bind (readElement read)
  | ['z', '.', 'o'] =>
    (text.dropPrefix? "z.object(\x7b".toList).bind (readFields read limit)
  | _ => none

/-- The optional marks that follow a schema. -/
def readMarks (schema : Schema) (text : List Char) : Schema × List Char :=
  match _found : text.dropPrefix? Expression.optionalMark.toList with
  | some after => readMarks (.optional schema) after
  | none => (schema, text)
termination_by text.length
decreasing_by
  rcases List.dropPrefix?_eq_some_iff.mp _found with ⟨mark, rfl, same⟩
  rw [eq_of_beq same, List.length_append]
  exact Nat.lt_add_of_pos_left (by decide)

/-- A schema with its marks, nested at most so deep. -/
def readWithin : Nat → Reader Schema
  | 0, _ => none
  | limit + 1, text => do
    let (core, after) ← readCore (readWithin limit) limit text
    return readMarks core after

/-! ## Marks -/

theorem readMarks_mark (schema : Schema) (rest : List Char) :
    readMarks schema (Expression.optionalMark.toList ++ rest) =
      readMarks (.optional schema) rest := by
  rw [readMarks]
  split
  · rename_i after found
    rw [dropPrefix?_append] at found
    cases found
    rfl
  · rename_i missing
    rw [dropPrefix?_append] at missing
    cases missing

theorem readMarks_ends
    (schema : Schema)
    {rest : List Char}
    (ends : Ends rest) :
    readMarks schema rest = (schema, rest) := by
  have dot : Expression.optionalMark.toList.head? = some '.' := rfl
  have noMark : rest.dropPrefix? Expression.optionalMark.toList = none :=
    dropPrefix?_eq_none dot (ends.head?_ne (by simp [endings]))
  rw [readMarks]
  split
  · rename_i after found
    rw [noMark] at found
    cases found
  · rfl

/-! ## The alternatives -/

/-- The part of the expression of a UUID that the expression of a text lacks. -/
def uuidMark : List Char := ".uuid()".toList

theorem readAtom_append (kind : Atom) (rest : List Char) :
    readAtom kind (kind.expression.toList ++ rest) = some (.atom kind, rest) := by
  simp [readAtom, dropPrefix?_append]

/-- A date that may be missing is told from the other schemas by its third character. -/
theorem take_optionalDate (rest : List Char) :
    (Expression.optionalDate.toList ++ rest).take 3 = ['z', '.', 'u'] := by
  unfold Expression.optionalDate
  simp only [String.toList_append, List.append_assoc]
  rfl

/-- A schema without parts is read back, as long as no mark of an identifier follows a text. -/
theorem readCore_atom
    (read : Reader Schema)
    (limit : Nat)
    (kind : Atom)
    {rest : List Char}
    (noUuid : rest.dropPrefix? uuidMark = none) :
    readCore read limit (kind.expression.toList ++ rest) =
      some (.atom kind, rest) := by
  cases kind with
  | text =>
      have noUuid : readAtom .uuid (Expression.text.toList ++ rest) = none := by
        have missing : (Expression.text.toList ++ rest).dropPrefix?
            Expression.uuid.toList = none :=
          noUuid
        simp [readAtom, Atom.expression, missing]
      have found := readAtom_append .text rest
      rw [Atom.expression] at found ⊢
      change (readAtom .uuid _).or (readAtom .text _) = _
      rw [noUuid, found]
      rfl
  | uuid =>
      change (readAtom .uuid _).or (readAtom .text _) = _
      rw [readAtom_append]
      rfl
  | number =>
      exact readAtom_append .number rest
  | boolean =>
      exact readAtom_append .boolean rest
  | requiredDate =>
      exact readAtom_append .requiredDate rest
  | optionalDate =>
      have found := readAtom_append .optionalDate rest
      rw [Atom.expression] at found ⊢
      rw [readCore, take_optionalDate]
      exact found

theorem readOptions_append
    {limit : Nat}
    {options : List String}
    (enough : options.length ≤ limit)
    (rest : List Char) :
    readOptions limit
        ((String.intercalate ", " (options.map literal)).toList ++
          ("])".toList ++ rest)) =
      some (.oneOf options, rest) := by
  cases options with
  | nil =>
      have noLiteral : readUntil (readMany readLiteral limit) "])"
          ("])".toList ++ rest) = none := by
        cases limit <;> rfl
      change readOptions limit ("])".toList ++ rest) = _
      rw [readOptions, noLiteral]
      simp only [dropPrefix?_append, Option.bind_eq_bind, Option.bind_some,
        Option.pure_def]
  | cons first others =>
      have ends : Ends ("])".toList ++ rest) :=
        ⟨']', ')' :: rest, rfl, by simp [endings]⟩
      have many := readMany_intercalate (List.cons_ne_nil first others)
        (fun option _ => reads_literal option) ends (by simp) enough
      rw [readOptions, readUntil_eq_some many]

/-- A choice is read back when the limit admits its options. -/
theorem readCore_oneOf
    (read : Reader Schema)
    {limit : Nat}
    {options : List String}
    (enough : options.length ≤ limit)
    (rest : List Char) :
    readCore read limit ((Expression.oneOf options).toList ++ rest) =
      some (.oneOf options, rest) := by
  simp only [Expression.oneOf, String.toList_append, List.append_assoc]
  change (("z.enum([".toList ++ _).dropPrefix? "z.enum([".toList).bind _ = _
  rw [dropPrefix?_append]
  exact readOptions_append enough rest

theorem readCore_reference
    (read : Reader Schema)
    (limit : Nat)
    (collection : String)
    (rest : List Char) :
    readCore read limit ((Expression.referenceTo collection).toList ++ rest) =
      some (.reference collection, rest) := by
  have ends : Ends (")".toList ++ rest) :=
    ⟨')', rest, rfl, by simp [endings]⟩
  have target := readUntil_eq_some (reads_literal collection _ ends)
  simp only [Expression.referenceTo, String.toList_append, List.append_assoc]
  change (("reference(".toList ++ _).dropPrefix? "reference(".toList).bind _ = _
  rw [dropPrefix?_append, Option.bind_some, readTarget, target]
  rfl

theorem readCore_array
    {read : Reader Schema}
    {item : Schema}
    (reads : Reads read item.expression.toList item)
    (limit : Nat)
    (rest : List Char) :
    readCore read limit ((Expression.arrayOf item.expression).toList ++ rest) =
      some (.array item, rest) := by
  have ends : Ends (")".toList ++ rest) :=
    ⟨')', rest, rfl, by simp [endings]⟩
  have element := readUntil_eq_some (reads _ ends)
  simp only [Expression.arrayOf, String.toList_append, List.append_assoc]
  change (("z.array(".toList ++ _).dropPrefix? "z.array(".toList).bind _ = _
  rw [dropPrefix?_append, Option.bind_some, readElement, element]
  rfl

/-- A field is read back when its schema is. -/
theorem reads_field
    {read : Reader Schema}
    {field : String × Schema}
    (reads : Reads read field.2.expression.toList field.2) :
    Reads (readField read) (entry field).toList field := by
  intro rest ends
  have colon : Ends (": ".toList ++ (field.2.expression.toList ++ rest)) :=
    ⟨':', ' ' :: _, rfl, by simp [endings]⟩
  have name := readUntil_eq_some (reads_key field.1 _ colon)
  simp only [entry, String.toList_append, List.append_assoc]
  rw [readField, name]
  simp [reads rest ends]

/-- The beginning of every record, up to its entries. -/
theorem readCore_recordOpening
    (read : Reader Schema)
    (limit : Nat)
    (rest : List Char) :
    readCore read limit ("z.object(\x7b".toList ++ rest) =
      readFields read limit rest := by
  have opening : ("z.object(\x7b".toList ++ rest).take 3 = ['z', '.', 'o'] := rfl
  rw [readCore, opening]
  simp only
  rw [dropPrefix?_append, Option.bind_some]

/-- A record is read back when the schemas of its fields are and the limit admits them all. -/
theorem readCore_record
    {read : Reader Schema}
    {limit : Nat}
    {fields : List (String × Schema)}
    (reads : ∀ field ∈ fields, Reads read field.2.expression.toList field.2)
    (enough : fields.length ≤ limit)
    (rest : List Char) :
    readCore read limit
        ((Expression.inlineRecord (entries fields)).toList ++ rest) =
      some (.record fields, rest) := by
  rw [entries_eq_map]
  cases fields with
  | nil =>
      have noBlank : ("\x7d)".toList ++ rest).dropPrefix? " ".toList = none := rfl
      change readCore read limit
        ("z.object(\x7b".toList ++ ("\x7d)".toList ++ rest)) = _
      rw [readCore_recordOpening, readFields, noBlank]
      simp only [dropPrefix?_append, Option.bind_eq_bind, Option.bind_some,
        Option.pure_def]
  | cons first others =>
      have ends : Ends (" \x7d)".toList ++ rest) :=
        ⟨' ', '\x7d' :: ')' :: rest, rfl, by simp [endings]⟩
      have many := readMany_intercalate (List.cons_ne_nil first others)
        (fun field member => reads_field (reads field member)) ends (by simp) enough
      have written : Expression.inlineRecord ((first :: others).map entry) =
          "z.object(\x7b" ++ (" " ++ (String.intercalate ", " ((first :: others).map entry)
            ++ " \x7d)")) := by
        change "z.object(\x7b" ++ " " ++ _ ++ _ = _
        simp only [String.append_assoc]
      rw [written]
      simp only [String.toList_append, List.append_assoc]
      rw [readCore_recordOpening, readFields, dropPrefix?_append]
      simp only [readUntil_eq_some many, Option.bind_eq_bind, Option.bind_some,
        Option.pure_def]

/-! ## Whole expressions -/

/--
With a limit that is high enough, the expression of a schema is read as the schema
with the marks that follow it.
-/
def Readable (schema : Schema) : Prop :=
  ∀ᶠ limit in atTop, ∀ rest : List Char, rest.dropPrefix? uuidMark = none →
    readWithin limit (schema.expression.toList ++ rest) = some (readMarks schema rest)

/-- What is read without its marks is read with them, one level further out. -/
theorem readable_of_readCore
    {schema : Schema}
    (reads : ∀ᶠ limit in atTop, ∀ rest : List Char, rest.dropPrefix? uuidMark = none →
      readCore (readWithin limit) limit (schema.expression.toList ++ rest) =
        some (schema, rest)) :
    Readable schema := by
  unfold Readable
  rw [← map_add_atTop_eq_nat 1, eventually_map]
  filter_upwards [reads] with limit core rest noUuid
  rw [readWithin, core rest noUuid]
  rfl

/-- Behind a schema that nothing follows, no mark is read. -/
theorem Readable.reads
    {schema : Schema}
    (readable : Readable schema) :
    ∀ᶠ limit in atTop, Reads (readWithin limit) schema.expression.toList schema := by
  filter_upwards [readable] with limit marked rest ends
  have dot : uuidMark.head? = some '.' := rfl
  have noUuid : rest.dropPrefix? uuidMark = none :=
    dropPrefix?_eq_none dot (ends.head?_ne (by simp [endings]))
  rw [marked rest noUuid, readMarks_ends schema ends]

theorem Readable.optional
    {schema : Schema}
    (readable : Readable schema) :
    Readable (.optional schema) := by
  filter_upwards [readable] with limit marked rest _
  have noUuid : (Expression.optionalMark.toList ++ rest).dropPrefix? uuidMark = none :=
    rfl
  rw [expression, String.toList_append, List.append_assoc, marked _ noUuid,
    readMarks_mark]

/-- A record of readable schemas is readable: the limits of its fields have a common bound. -/
theorem Readable.record
    {fields : List (String × Schema)}
    (readable : ∀ field ∈ fields, Readable field.2) :
    Readable (.record fields) := by
  have each : ∀ᶠ limit in atTop, ∀ field ∈ {field | field ∈ fields},
      Reads (readWithin limit) field.2.expression.toList field.2 := by
    apply (eventually_all_finite fields.finite_toSet).mpr
    intro field member
    exact (readable field member).reads
  apply readable_of_readCore
  filter_upwards [each, eventually_ge_atTop fields.length] with limit reads enough rest _
  exact readCore_record reads enough rest

/-- Every schema is read back from its expression once the limit is large enough. -/
theorem readable (schema : Schema) :
    Readable schema := by
  induction schema using Schema.induction with
  | atom kind =>
      apply readable_of_readCore
      exact .of_forall fun limit rest noUuid =>
        readCore_atom (readWithin limit) limit kind noUuid
  | oneOf options =>
      apply readable_of_readCore
      filter_upwards [eventually_ge_atTop options.length] with limit enough rest _
      exact readCore_oneOf (readWithin limit) enough rest
  | reference collection =>
      apply readable_of_readCore
      exact .of_forall fun limit rest _ =>
        readCore_reference (readWithin limit) limit collection rest
  | array item ih =>
      apply readable_of_readCore
      filter_upwards [ih.reads] with limit reads rest _
      exact readCore_array reads limit rest
  | record fields ih =>
      exact Readable.record ih
  | optional schema ih =>
      exact ih.optional

end ContentSchema.Schema
