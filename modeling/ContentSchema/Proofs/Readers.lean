import Mathlib
import ContentSchema.Expression
import ContentSchema.Proofs.IdentifierShape
import ContentSchema.Proofs.LiteralReading

/-!
# Readers of generated text

A reader takes a value off the front of a text and returns what follows.  The
readers of this module undo the pieces from which every expression is written:
literals, keys, closing marks and lists separated by commas.

What a reader may take for the continuation of a piece depends on what follows
the piece.  In a module every piece is followed by one of a few characters, which
neither belong to names nor call a method; `Ends` says so, and `Reads` relates a
reader to what is written under that condition.
-/

namespace ContentSchema.Reading

open Text

/-- A reader returns a value with the text after it. -/
abbrev Reader (Value : Type) : Type :=
  List Char → Option (Value × List Char)

variable {Value Other : Type}

/-- The characters that follow the pieces of a module. -/
def endings : List Char :=
  [' ', ')', ',', ':', ']']

/-- A text that cannot continue a piece. -/
def Ends (rest : List Char) : Prop :=
  ∃ first after, rest = first :: after ∧ first ∈ endings

/-- A reader takes exactly what is written off the front of every text. -/
def Reads (read : Reader Value) (written : List Char) (value : Value) : Prop :=
  ∀ rest, Ends rest → read (written ++ rest) = some (value, rest)

theorem Ends.head?_ne
    {rest : List Char}
    (ends : Ends rest)
    {character : Char}
    (other : character ∉ endings) :
    rest.head? ≠ some character := by
  rcases ends with ⟨first, after, rfl, member⟩
  intro same
  cases same
  exact other member

theorem not_isIdentifierPart_ending
    {character : Char}
    (ending : character ∈ endings) :
    isIdentifierPart character = false := by
  have inside : endings ⊆ delimiters := by
    simp [endings, delimiters]
  exact not_isIdentifierPart (inside ending)

theorem dropPrefix?_eq_none
    {lead rest : List Char}
    {first : Char}
    (starts : lead.head? = some first)
    (other : rest.head? ≠ some first) :
    rest.dropPrefix? lead = none := by
  rcases List.head?_eq_some_iff.mp starts with ⟨after, rfl⟩
  cases rest with
  | nil =>
      rfl
  | cons character rest =>
      have different : (character == first) = false := by
        simpa using other
      simp [List.dropPrefix?, different]

theorem dropPrefix?_append (lead rest : List Char) :
    (lead ++ rest).dropPrefix? lead = some rest :=
  List.dropPrefix?_append_of_beq rest (beq_self_eq_true lead)

/-! ## Names and literals -/

/-- A string literal is read up to the quote that closes it. -/
def readLiteral : Reader String
  | '"' :: text =>
    (Literal.readBody text).map fun body => (String.ofList body.1, body.2)
  | _ => none

/-- A name is read as far as its characters go, and may be empty. -/
def readName : Reader String := fun text =>
  some (String.ofList (text.takeWhile isIdentifierPart), text.dropWhile isIdentifierPart)

/-- The name that a key stands for, bare or as a literal. -/
def readKey : Reader String := fun text =>
  (readLiteral text).or (readName text)

/-- A string literal is read back as its text, whatever follows. -/
theorem reads_literal (text : String) :
    Reads readLiteral (literal text).toList text := by
  intro rest _
  rw [toList_literal, List.cons_append, List.append_assoc]
  simp [readLiteral, Literal.readBody_encode]

/-- A name is read back where a closing character follows it. -/
theorem reads_name
    {name : String}
    (shape : hasIdentifierShape name = true) :
    Reads readName name.toList name := by
  rintro _ ⟨ending, after, rfl, member⟩
  have inside : ∀ character ∈ name.toList, isIdentifierPart character = true :=
    fun _ => isIdentifierPart_of_mem_shape shape
  have outside := not_isIdentifierPart_ending member
  simp [readName, List.takeWhile_append_of_pos inside,
    List.dropWhile_append_of_pos inside, outside]

/-- A key is read as the name that it stands for, in either spelling. -/
theorem reads_key (name : String) :
    Reads readKey (Expression.key name).toList name := by
  intro rest ends
  unfold Expression.key
  split
  · rename_i shape
    have noLiteral : readLiteral (name.toList ++ rest) = none := by
      unfold readLiteral
      split
      · rename_i text quoted
        rcases List.exists_cons_of_ne_nil (toList_ne_nil_of_shape shape) with
          ⟨first, others, characters⟩
        rw [characters] at quoted
        cases quoted
        exact absurd (characters ▸ List.mem_cons_self)
          (not_mem_of_shape shape (by simp [delimiters]))
      · rfl
    rw [readKey, noLiteral, reads_name shape rest ends]
    rfl
  · rw [readKey, reads_literal name rest ends]
    rfl

/-! ## Closing marks -/

/-- A value is read, and fixed text after it. -/
def readUntil (read : Reader Value) (closing : String) : Reader Value := fun text => do
  let (value, after) ← read text
  let rest ← after.dropPrefix? closing.toList
  return (value, rest)

/-- A value is read together with the fixed text behind it. -/
theorem readUntil_eq_some
    {read : Reader Value}
    {closing : String}
    {text rest : List Char}
    {value : Value}
    (success : read text = some (value, closing.toList ++ rest)) :
    readUntil read closing text = some (value, rest) := by
  simp [readUntil, success, dropPrefix?_append]

/-! ## Lists separated by commas -/

/-- Values separated by commas, at most so many. -/
def readMany (read : Reader Value) : Nat → Reader (List Value)
  | 0, _ => none
  | limit + 1, text => do
    let (first, after) ← read text
    match after.dropPrefix? ", ".toList with
    | none => return ([first], after)
    | some further =>
      let (others, rest) ← readMany read limit further
      return (first :: others, rest)

theorem ends_comma (rest : List Char) : Ends (", ".toList ++ rest) :=
  ⟨',', ' ' :: rest, rfl, by simp [endings]⟩

/--
A list is read back when its parts are, unless the text goes on with a further
separator.  The induction is on the parts: all but the last are followed by the
separator, the last one by the rest.
-/
theorem readMany_intercalate
    {read : Reader Value}
    {write : Value → String}
    {values : List Value}
    (filled : values ≠ [])
    (reads : ∀ value ∈ values, Reads read (write value).toList value)
    {rest : List Char}
    (ends : Ends rest)
    (last : rest.head? ≠ some ',')
    {limit : Nat}
    (enough : values.length ≤ limit) :
    readMany read limit
        ((String.intercalate ", " (values.map write)).toList ++ rest) =
      some (values, rest) := by
  induction values generalizing limit with
  | nil =>
      exact absurd rfl filled
  | cons value values ih =>
      cases limit with
      | zero =>
          cases enough
      | succ limit =>
          have readsFirst := reads value List.mem_cons_self
          cases values with
          | nil =>
              have stop : rest.dropPrefix? ", ".toList = none :=
                dropPrefix?_eq_none rfl last
              rw [List.map_singleton, String.intercalate_singleton, readMany,
                readsFirst rest ends]
              simp only [Option.bind_eq_bind, Option.bind_some, stop,
                Option.pure_def]
          | cons second values =>
              have readsOthers := ih (List.cons_ne_nil _ _)
                (fun value member => reads value (List.mem_cons_of_mem _ member))
                (Nat.le_of_succ_le_succ enough)
              rw [List.map_cons, List.map_cons, String.intercalate_cons_cons,
                String.toList_append, String.toList_append, List.append_assoc,
                List.append_assoc, readMany, readsFirst _ (ends_comma _)]
              rw [List.map_cons] at readsOthers
              simp only [Option.bind_eq_bind, Option.bind_some,
                dropPrefix?_append, readsOthers, Option.pure_def]

/-! ## Repeated pieces -/

/-- Pieces that all start with one lead, fewer than so many. -/
def readRepeated (lead : String) (read : Reader Value) : Nat → Reader (List Value)
  | 0, _ => none
  | limit + 1, text =>
    match text.dropPrefix? lead.toList with
    | none => some ([], text)
    | some after => do
      let (first, further) ← read after
      let (others, rest) ← readRepeated lead read limit further
      return (first :: others, rest)

/-- Pieces are read back when the text does not go on with a further lead. -/
theorem readRepeated_join
    {lead : String}
    {read : Reader Value}
    {write : Value → String}
    {values : List Value}
    (reads : ∀ value ∈ values, ∀ rest,
      read ((write value).toList ++ rest) = some (value, rest))
    {rest : List Char}
    (stop : rest.dropPrefix? lead.toList = none)
    {limit : Nat}
    (enough : values.length < limit) :
    readRepeated lead read limit
        ((String.join (values.map fun value => lead ++ write value)).toList ++ rest) =
      some (values, rest) := by
  induction values generalizing limit with
  | nil =>
      cases limit with
      | zero =>
          cases enough
      | succ limit =>
          simp [readRepeated, stop]
  | cons value values ih =>
      cases limit with
      | zero =>
          cases enough
      | succ limit =>
          have readsFirst := reads value List.mem_cons_self
          have readsOthers := ih
            (fun value member => reads value (List.mem_cons_of_mem _ member))
            (Nat.lt_of_succ_lt_succ enough)
          rw [List.map_cons, String.join_cons, String.toList_append,
            String.toList_append, List.append_assoc, List.append_assoc,
            readRepeated, dropPrefix?_append]
          simp only [Option.bind_eq_bind, readsFirst, Option.bind_some,
            readsOthers, Option.pure_def]

end ContentSchema.Reading
