import Mathlib
import ContentSchema.Proofs.IdentifierShape
import ContentSchema.Proofs.LiteralReading
import ContentSchema.Proofs.SchemaTree

/-!
# The tokens of generated expressions

An expression is read as a row of words, literals and signs.  The reader goes
through the characters one by one and is outside of tokens, in a word or in a
literal; blanks and line feeds separate tokens and are none themselves.

What a piece of text adds to the tokens depends on what stands around it only
where a word may be cut.  `Lexed` is about pieces after which the reader is
outside again, and the tokens of such pieces follow one another.
-/

namespace ContentSchema

open Text (literal isIdentifierPart hasIdentifierShape)
open Text.Literal

/-- A token of an expression.  What a literal says does not matter. -/
inductive Token where
  | word (name : String)
  | quoted
  | sign (character : Char)
  deriving DecidableEq, Repr

namespace Token

/-! ## The reader -/

/-- Where the reader of tokens is; the characters of a word are kept, last one first. -/
inductive Mode where
  | outside
  | word (reversed : List Char)
  | quoted
  | escape
  deriving DecidableEq, Repr

/-- The reader takes a character that does not continue a word. -/
def start (character : Char) : List Token × Mode :=
  if character = '"' then ([], .quoted)
  else if character = ' ' ∨ character = '\n' then ([], .outside)
  else if isIdentifierPart character then ([], .word [character])
  else ([.sign character], .outside)

/-- The tokens that end with a character or just before it, and where the reader is then. -/
def step : Mode → Char → List Token × Mode
  | .outside, character => start character
  | .word reversed, character =>
    if isIdentifierPart character then ([], .word (character :: reversed))
    else
      (.word (String.ofList reversed.reverse) :: (start character).1, (start character).2)
  | .quoted, character =>
    if character = '"' then ([.quoted], .outside)
    else if character = '\\' then ([], .escape)
    else ([], .quoted)
  | .escape, _ => ([], .quoted)

/-- The tokens of a text, and where the reader is behind it. -/
def run : Mode → List Char → List Token × Mode
  | mode, [] => ([], mode)
  | mode, character :: rest =>
    ((step mode character).1 ++ (run (step mode character).2 rest).1,
      (run (step mode character).2 rest).2)

/-- What is still to be returned at the end of the text. -/
def Mode.last : Mode → List Token
  | .word reversed => [.word (String.ofList reversed.reverse)]
  | _ => []

/-- The tokens of a text, the word at its end included. -/
def ofText (text : String) : List Token :=
  (run .outside text.toList).1 ++ (run .outside text.toList).2.last

/-- Reading goes on where it stopped. -/
theorem run_append (mode : Mode) (first second : List Char) :
    run mode (first ++ second) =
      ((run mode first).1 ++ (run (run mode first).2 second).1,
        (run (run mode first).2 second).2) := by
  induction first generalizing mode with
  | nil =>
      rfl
  | cons character rest ih =>
      rw [List.cons_append, run, ih, run]
      simp only [List.append_assoc]

/-! ## Pieces of text -/

/-- A piece of text has tokens of its own, and the reader is outside behind it. -/
def Lexed (text : String) (tokens : List Token) : Prop :=
  run .outside text.toList = (tokens, .outside)

/-- A text is compared with tokens by reading it. -/
instance (text : String) (tokens : List Token) : Decidable (Lexed text tokens) :=
  inferInstanceAs (Decidable (run .outside text.toList = (tokens, .outside)))

/-- Tokens of texts that stand side by side. -/
theorem Lexed.append
    {first second : String}
    {before after : List Token}
    (lexedFirst : Lexed first before)
    (lexedSecond : Lexed second after) :
    Lexed (first ++ second) (before ++ after) := by
  unfold Lexed at *
  rw [String.toList_append, run_append, lexedFirst, lexedSecond]

theorem Lexed.ofText_eq
    {text : String}
    {tokens : List Token}
    (lexed : Lexed text tokens) :
    ofText text = tokens := by
  unfold Lexed at lexed
  rw [ofText, lexed]
  exact List.append_nil tokens

/-- Pieces separated by commas, with the sign for every separator between their tokens. -/
theorem lexed_intercalate
    {Value : Type}
    {values : List Value}
    {write : Value → String}
    {tokens : Value → List Token}
    (each : ∀ value ∈ values, Lexed (write value) (tokens value)) :
    Lexed (String.intercalate ", " (values.map write))
      ([.sign ','].intercalate (values.map tokens)) := by
  have comma : Lexed ", " [.sign ','] := by decide +kernel
  induction values with
  | nil =>
      rw [List.map_nil, List.map_nil, String.intercalate_nil, List.intercalate_nil]
      rfl
  | cons first rest ih =>
      have head := each first List.mem_cons_self
      have tail := ih fun value member => each value (List.mem_cons_of_mem _ member)
      cases rest with
      | nil =>
          rw [List.map_singleton, List.map_singleton, String.intercalate_singleton,
            List.intercalate_singleton]
          exact head
      | cons second rest =>
          rw [List.map_cons, List.map_cons] at tail
          rw [List.map_cons, List.map_cons, List.map_cons, List.map_cons,
            String.intercalate_cons_cons, List.intercalate_cons_cons]
          exact (head.append comma).append tail

theorem lexed_join
    {Value : Type}
    {values : List Value}
    {write : Value → String}
    {tokens : Value → List Token}
    (each : ∀ value ∈ values, Lexed (write value) (tokens value)) :
    Lexed (String.join (values.map write)) (values.flatMap tokens) := by
  induction values with
  | nil =>
      rfl
  | cons first rest ih =>
      have head := each first List.mem_cons_self
      have tail := ih fun value member => each value (List.mem_cons_of_mem _ member)
      rw [List.map_cons, String.join_cons, List.flatMap_cons]
      exact head.append tail

/-! ## Literals and words -/

theorem goesOn_hexDigit :
    ∀ value < 16, hexDigit value ≠ '"' ∧ hexDigit value ≠ '\\' := by
  decide

/-- Every character is written so that a literal goes on behind it. -/
theorem run_escape (character : Char) :
    run .quoted (escape character) = ([], .quoted) := by
  cases short : shortEscape character with
  | some letter =>
      simp only [escape, short]
      rfl
  | none =>
      by_cases control : character.toNat < 0x20
      · have high := goesOn_hexDigit (character.toNat / 16) (by omega)
        have low := goesOn_hexDigit (character.toNat % 16) (by omega)
        simp only [escape, short, control, if_true]
        change run .quoted [hexDigit _, hexDigit _] = _
        simp only [run, step, high, low, if_false]
        rfl
      · have ordinary := ordinary_of_shortEscape short
        simp only [escape, short, control, if_false, run, step, ordinary]
        rfl

/-- Nothing inside a literal ends it. -/
theorem run_encode (characters : List Char) :
    run .quoted (encode characters) = ([], .quoted) := by
  induction characters with
  | nil =>
      rfl
  | cons character rest ih =>
      rw [encode_cons, run_append, run_escape, ih]
      rfl

/-- A literal is a single quotation, whatever its text. -/
theorem lexed_literal (text : String) :
    Lexed (literal text) [.quoted] := by
  have opened : step .outside '"' = ([], .quoted) := rfl
  have closed : run .quoted ['"'] = ([.quoted], .outside) := rfl
  unfold Lexed
  rw [Text.toList_literal, run, opened, run_append, run_encode, closed]
  rfl

theorem run_word
    {characters : List Char}
    (inside : ∀ character ∈ characters, isIdentifierPart character = true)
    (reversed : List Char) :
    run (.word reversed) characters =
      ([], .word (characters.reverse ++ reversed)) := by
  induction characters generalizing reversed with
  | nil =>
      rfl
  | cons character rest ih =>
      have part := inside character List.mem_cons_self
      have others := ih (fun other member => inside other (List.mem_cons_of_mem _ member))
        (character :: reversed)
      simp only [run, step, part, if_true, others]
      simp

/-- A word ends where a character stands that does not belong to words. -/
theorem run_word_end
    {character : Char}
    (outside : isIdentifierPart character = false)
    (reversed rest : List Char) :
    run (.word reversed) (character :: rest) =
      (.word (String.ofList reversed.reverse) :: (run .outside (character :: rest)).1,
        (run .outside (character :: rest)).2) := by
  simp [run, step, outside]

/-- A name in the shape of an identifier is one word before a text that ends words. -/
theorem lexed_word
    {name text : String}
    {tokens : List Token}
    (shape : hasIdentifierShape name = true)
    (lexed : Lexed text tokens)
    {character : Char}
    (leads : text.toList.head? = some character)
    (outside : isIdentifierPart character = false) :
    Lexed (name ++ text) (.word name :: tokens) := by
  have parts : ∀ character ∈ name.toList, isIdentifierPart character = true :=
    fun _ member => Text.isIdentifierPart_of_mem_shape shape member
  rcases List.head?_eq_some_iff.mp leads with ⟨rest, written⟩
  rcases List.exists_cons_of_ne_nil (Text.toList_ne_nil_of_shape shape) with
    ⟨first, others, characters⟩
  have opening : step .outside first = ([], .word [first]) := by
    have noDelimiter : ∀ delimiter ∈ Text.delimiters, first ≠ delimiter := by
      rintro delimiter listed rfl
      exact Text.not_mem_of_shape shape listed (characters ▸ List.mem_cons_self)
    have part := parts first (characters ▸ List.mem_cons_self)
    simp only [step, start, part, if_true,
      noDelimiter '"' (by decide), noDelimiter ' ' (by decide),
      noDelimiter '\n' (by decide), if_false, or_self]
  have whole : String.ofList (others.reverse ++ [first]).reverse = name := by
    rw [List.reverse_append, List.reverse_reverse, List.reverse_singleton,
      List.singleton_append, ← characters, String.ofList_toList]
  have inside : ∀ character ∈ others, isIdentifierPart character = true :=
    fun _ member => parts _ (characters ▸ List.mem_cons_of_mem _ member)
  unfold Lexed at *
  rw [String.toList_append, run_append, characters, run, opening, run_word inside, written,
    run_word_end outside, whole, ← written, lexed]
  rfl

/-- The token of a key: a word where its shape allows it, and a quotation where not. -/
def ofKey (name : String) : Token :=
  if hasIdentifierShape name then .word name else .quoted

theorem lexed_key (name : String) :
    Lexed (Expression.key name ++ ": ") [ofKey name, .sign ':'] := by
  have colon : Lexed ": " [.sign ':'] := by decide +kernel
  unfold Expression.key ofKey
  split
  · rename_i shape
    exact lexed_word shape colon rfl (Text.not_isIdentifierPart (by decide))
  · exact (lexed_literal name).append colon

end Token

/-! ## The tokens of schemas -/

open Token

/-- The tokens of a call without arguments. -/
def Token.method (name : String) : List Token :=
  [.sign '.', .word name, .sign '(', .sign ')']

namespace Schema

/-- The tokens of a schema without parts. -/
def Atom.tokens : Atom → List Token
  | .text => .word "z" :: method "string"
  | .number => .word "z" :: method "number"
  | .boolean => .word "z" :: method "boolean"
  | .uuid => .word "z" :: method "string" ++ method "uuid"
  | .requiredDate => [.word "z", .sign '.', .word "coerce"] ++ method "date"
  | .optionalDate =>
    [.word "z", .sign '.', .word "union", .sign '(', .sign '[']
      ++ (.word "z" :: method "string")
      ++ [ .sign '.', .word "transform", .sign '(', .sign '(', .word "val", .sign ')',
           .sign '=', .sign '>' ]
      ++ [ .sign '(', .word "val", .sign '=', .sign '=', .sign '=', .quoted, .sign '?',
           .word "undefined", .sign ':', .word "new", .word "Date", .sign '(',
           .word "val", .sign ')', .sign ')', .sign ')', .sign ',' ]
      ++ (.word "z" :: method "date")
      ++ [.sign ']', .sign ')'] ++ method "optional"

mutual

/-- The tokens of a schema written inside a line. -/
def tokens : Schema → List Token
  | .atom kind => kind.tokens
  | .oneOf options =>
    [.word "z", .sign '.', .word "enum", .sign '(', .sign '[']
      ++ [.sign ','].intercalate (options.map fun _ => [.quoted])
      ++ [.sign ']', .sign ')']
  | .reference _ => [.word "reference", .sign '(', .quoted, .sign ')']
  | .array item =>
    [.word "z", .sign '.', .word "array", .sign '('] ++ tokens item ++ [.sign ')']
  | .record fields =>
    [.word "z", .sign '.', .word "object", .sign '(', .sign '\x7b']
      ++ [.sign ','].intercalate (entriesTokens fields)
      ++ [.sign '\x7d', .sign ')']
  | .optional schema => tokens schema ++ (method "nullable" ++ method "optional")

/-- The tokens of the entries of a record, one list for each. -/
def entriesTokens : List (String × Schema) → List (List Token)
  | [] => []
  | (name, schema) :: rest =>
    ([ofKey name, .sign ':'] ++ tokens schema) :: entriesTokens rest

end

/-- The tokens of one entry of a record. -/
def entryTokens (field : String × Schema) : List Token :=
  [ofKey field.1, .sign ':'] ++ field.2.tokens

theorem entriesTokens_eq_map (fields : List (String × Schema)) :
    entriesTokens fields = fields.map entryTokens := by
  induction fields with
  | nil =>
      rfl
  | cons field rest ih =>
      simp [entriesTokens, entryTokens, ih]

theorem lexed_entry
    {field : String × Schema}
    (lexed : Lexed field.2.expression field.2.tokens) :
    Lexed (entry field) (entryTokens field) :=
  (lexed_key field.1).append lexed

/-- The tokens of an expression are those of its schema. -/
theorem lexed_expression (schema : Schema) :
    Lexed schema.expression schema.tokens := by
  induction schema using Schema.induction with
  | atom kind =>
      cases kind <;> decide +kernel
  | oneOf options =>
      have opening : Lexed "z.enum(["
          [.word "z", .sign '.', .word "enum", .sign '(', .sign '['] := by
        decide +kernel
      have closing : Lexed "])" [.sign ']', .sign ')'] := by decide +kernel
      exact (opening.append (lexed_intercalate fun option _ =>
        lexed_literal option)).append closing
  | reference collection =>
      have opening : Lexed "reference(" [.word "reference", .sign '('] := by
        decide +kernel
      have closing : Lexed ")" [.sign ')'] := by decide +kernel
      exact (opening.append (lexed_literal collection)).append closing
  | array item ih =>
      have opening : Lexed "z.array("
          [.word "z", .sign '.', .word "array", .sign '('] := by
        decide +kernel
      have closing : Lexed ")" [.sign ')'] := by decide +kernel
      exact (opening.append ih).append closing
  | record fields ih =>
      rw [expression, tokens, entries_eq_map, entriesTokens_eq_map]
      cases fields with
      | nil =>
          decide +kernel
      | cons first others =>
          have opening : Lexed "z.object(\x7b "
              [.word "z", .sign '.', .word "object", .sign '(', .sign '\x7b'] := by
            decide +kernel
          have closing : Lexed " \x7d)" [.sign '\x7d', .sign ')'] := by
            decide +kernel
          exact (opening.append (lexed_intercalate fun field member =>
            lexed_entry (ih field member))).append closing
  | optional schema ih =>
      have mark : Lexed Expression.optionalMark
          (method "nullable" ++ method "optional") := by
        decide +kernel
      exact ih.append mark

end Schema

end ContentSchema
