import Mathlib
import ContentSchema.Error
import ContentSchema.Proofs.JsonTokens
import ContentSchema.Proofs.ModuleLines
import ContentSchema.Proofs.RecordKeys

/-!
# The lines of messages

A message is put together from words of its own, which are one line, and from what it
quotes of a document.  Whole descriptors are quoted in compact form, where every line feed
is escaped; names, locales and kinds of widget are quoted as they are.  So a message has
the line feeds of those quotations and no others, and it can be said of a document which
of its texts matter: no folder, option, target or key is among them.
-/

namespace ContentSchema

open Text (OneLine oneLine_append Within literal)

/-! ## Texts that quote others -/

namespace Text

/-- A text put together from texts of one line and from texts that are quoted as they are. -/
inductive Composed (quoted : String → Prop) : String → Prop
  | line {text}
      (oneLine : OneLine text) :
      Composed quoted text
  | quotation {text}
      (quotable : quoted text) :
      Composed quoted text
  | append {first second}
      (front : Composed quoted first)
      (back : Composed quoted second) :
      Composed quoted (first ++ second)

namespace Composed

variable {quoted further : String → Prop} {text : String}

theorem mono
    (composed : Composed quoted text)
    (wider : ∀ {quotation}, quoted quotation → further quotation) :
    Composed further text := by
  induction composed with
  | line oneLine =>
      exact .line oneLine
  | quotation quotable =>
      exact .quotation (wider quotable)
  | append _ _ front back =>
      exact front.append back

theorem after
    (composed : Composed quoted text)
    {words : String}
    (oneLine : OneLine words) :
    Composed quoted (words ++ text) :=
  (line oneLine).append composed

theorem before
    (composed : Composed quoted text)
    {words : String}
    (oneLine : OneLine words) :
    Composed quoted (text ++ words) :=
  composed.append (line oneLine)

/-- Every line feed of a composed text stands in a text that it quotes. -/
theorem oneLine_iff
    (composed : Composed quoted text) :
    OneLine text ↔
      ∀ quotation, quoted quotation → Within quotation text → OneLine quotation := by
  constructor
  · intro oneLine quotation _ within found
    exact oneLine (within.subset found)
  · intro quotations
    induction composed with
    | line oneLine =>
        exact oneLine
    | quotation quotable =>
        exact quotations _ quotable (.refl _)
    | @append first second _ _ front back =>
        rw [oneLine_append]
        exact
          ⟨front fun quotation quotable within =>
              quotations quotation quotable (within.append_left second),
            back fun quotation quotable within =>
              quotations quotation quotable (within.append_right first)⟩

end Composed

end Text

open Text (Composed)

/-! ## Compact texts have no control characters -/

namespace Text

/-- A text without control characters. -/
def Visible (text : String) : Prop :=
  ∀ character ∈ text.toList, 0x20 ≤ character.toNat

/-- Whether a text is visible is decided over its characters. -/
instance (text : String) : Decidable (Visible text) :=
  decidable_of_iff (text.toList.all fun character => Nat.ble 0x20 character.toNat)
    (by simp [Visible])

theorem Visible.oneLine
    {text : String}
    (visible : Visible text) :
    OneLine text :=
  fun lineFeed => absurd (visible _ lineFeed) (by decide)

theorem visible_append {first second : String} :
    Visible (first ++ second) ↔ Visible first ∧ Visible second := by
  simp [Visible, or_imp, forall_and]

theorem visible_intercalate
    {separator : String} {parts : List String}
    (between : Visible separator)
    (each : ∀ part ∈ parts, Visible part) :
    Visible (String.intercalate separator parts) := by
  intro character member
  by_contra control
  exact not_mem_intercalate (fun inside => control (between _ inside))
    (fun part among inside => control (each part among _ inside)) member

/-- The literal of a text shows none of its control characters as they are. -/
theorem visible_literal (text : String) :
    Visible (literal text) :=
  fun _ member => Nat.le_of_not_lt fun control => not_mem_literal control text member

end Text

open Text (Visible visible_append visible_intercalate visible_literal)

namespace Decimal

theorem not_mem_of_digits
    {character : Char}
    (noDigit : Json.isDigit character = false)
    (number : Nat) :
    character ∉ Nat.toDigits 10 number := by
  intro member
  rw [Json.isDigit_of_mem_toDigits member] at noDigit
  cases noDigit

/-- A number is laid out with digits, noughts, a point, a sign and the mark of an exponent. -/
theorem not_mem_layOut
    {character : Char} {digits : List Char}
    (absent : character ∉ digits)
    (noDigit : Json.isDigit character = false)
    (noMark : character ∉ ['0', '.', 'e', '+', '-'])
    (point : Int) :
    character ∉ layOut digits point := by
  have exponent := not_mem_of_digits noDigit (point - 1).natAbs
  have front : ∀ count, character ∉ digits.take count :=
    fun count member => absent (List.mem_of_mem_take member)
  have back : ∀ count, character ∉ digits.drop count :=
    fun count member => absent (List.mem_of_mem_drop member)
  have tail : character ∉ digits.tail :=
    fun member => absent (List.mem_of_mem_tail member)
  simp only [List.mem_cons, List.not_mem_nil, or_false, not_or] at noMark
  unfold layOut
  simp only
  split_ifs <;> simp [absent, noMark, exponent, front, back, tail, List.mem_replicate]

theorem le_toNat_of_isDigit
    {character : Char}
    (digit : Json.isDigit character = true) :
    0x30 ≤ character.toNat := by
  rw [Json.isDigit, Bool.and_eq_true, decide_eq_true_eq] at digit
  exact digit.1

/-- A number is written without control characters, with an exponent or without. -/
theorem Double.visible_text (value : Double) :
    Visible value.text := by
  have sign : Visible (if value.negative then "-" else "") := by
    cases value.negative <;> decide
  unfold Double.text
  simp only
  split
  · exact visible_append.mpr ⟨sign, by decide⟩
  · refine visible_append.mpr ⟨sign, ?_⟩
    intro character member
    rw [String.toList_ofList] at member
    by_contra control
    have noDigit : Json.isDigit character = false := by
      rw [Bool.eq_false_iff]
      exact fun digit => control ((le_toNat_of_isDigit digit).trans' (by decide))
    refine not_mem_layOut (fun inside => ?_) noDigit ?_ _ member
    · unfold trimNoughts at inside
      have digit := (List.dropWhile_suffix _).subset (List.mem_reverse.mp inside)
      exact not_mem_of_digits noDigit _ (List.mem_reverse.mp digit)
    · have marks : Visible "0.e+-" := by decide
      exact fun mark => control (marks _ mark)

end Decimal

theorem Text.visible_repr (number : Nat) :
    Visible (Nat.repr number) := by
  intro character member
  rw [Nat.toList_repr] at member
  have digit := Decimal.le_toNat_of_isDigit (Json.isDigit_of_mem_toDigits member)
  omega

namespace Document

theorem visible_integer (value : Int) :
    Visible (toString value) := by
  cases value with
  | ofNat number =>
      exact Text.visible_repr number
  | negSucc number =>
      exact visible_append.mpr ⟨by decide, Text.visible_repr (number + 1)⟩

mutual

/-- The compact text of a document escapes every control character of its texts and keys. -/
theorem visible_compact : ∀ document : Document, Visible document.compact
  | .null => by decide
  | .boolean value => by cases value <;> decide
  | .integer value => visible_integer value
  | .float value => value.visible_text
  | .string text => visible_literal text
  | .array elements => by
      rw [compact, visible_append, visible_append]
      refine ⟨⟨by decide, ?_⟩, by decide⟩
      exact visible_intercalate (by decide) (visible_of_mem_compactElements elements)
  | .object members => by
      rw [compact, visible_append, visible_append]
      refine ⟨⟨by decide, ?_⟩, by decide⟩
      exact visible_intercalate (by decide) (visible_of_mem_compactMembers members)

theorem visible_of_mem_compactElements :
    ∀ elements : List Document, ∀ part ∈ compactElements elements, Visible part
  | [], _, member => by cases member
  | element :: rest, part, member => by
      rw [compactElements] at member
      rcases List.mem_cons.mp member with rfl | later
      · exact visible_compact element
      · exact visible_of_mem_compactElements rest part later

/-- Keys are written as literals, so what they hold does not matter. -/
theorem visible_of_mem_compactMembers :
    ∀ members : List (String × Document), ∀ part ∈ compactMembers members, Visible part
  | [], _, member => by cases member
  | (key, value) :: rest, part, member => by
      rw [compactMembers] at member
      rcases List.mem_cons.mp member with rfl | later
      · rw [visible_append, visible_append]
        exact ⟨⟨visible_literal key, by decide⟩, visible_compact value⟩
      · exact visible_of_mem_compactMembers rest part later

end

end Document

/-! ## Messages -/

namespace Error

/-- The texts that stand in the message of an error among its own words. -/
def texts : Error → List String
  | .fileAccess path reason => [path, reason]
  | .malformed path reason => [path, reason]
  | .unsupportedFormat format => [format]
  | .missingProperty property context => [property, context]
  | .invalidProperty property context => [property, context]
  | .unknownWidget field received => [field, received]
  | .invalidOptions field => [field]
  | .invalidListFields field => [field]
  | .invalidRelationTarget field => [field]
  | .nestedTooDeep field _ => [field]
  | .invalidIdentifier constant => [constant]
  | .duplicateConstant constant => [constant]
  | .duplicateField field context => [field, context]

/-- An error whose texts have no line feeds but those of what they quote. -/
def Quotes (quoted : String → Prop) (error : Error) : Prop :=
  ∀ text ∈ error.texts, Composed quoted text

namespace Quotes

variable {quoted further : String → Prop} {error : Error}

theorem mono
    (quotes : error.Quotes quoted)
    (wider : ∀ {quotation}, quoted quotation → further quotation) :
    error.Quotes further :=
  fun text member => (quotes text member).mono wider

/-- What an error quotes is all that can break its message. -/
theorem message
    (quotes : error.Quotes quoted) :
    Composed quoted error.message := by
  cases error with
  | fileAccess path reason | malformed path reason =>
      have path := quotes path (by simp [texts])
      have reason := quotes reason (by simp [texts])
      exact ((path.after (by decide)).before (by decide)).append reason
  | unsupportedFormat format =>
      have format := quotes format (by simp [texts])
      exact format.after (by decide)
  | missingProperty property context | invalidProperty property context =>
      have property := quotes property (by simp [texts])
      have context := quotes context (by simp [texts])
      exact ((property.after (by decide)).before (by decide)).append context
  | unknownWidget field received =>
      have field := quotes field (by simp [texts])
      have received := quotes received (by simp [texts])
      exact ((field.after (by decide)).before (by decide)).append received
  | invalidOptions field | invalidListFields field | invalidRelationTarget field =>
      have field := quotes field (by simp [texts])
      exact field.after (by decide)
  | nestedTooDeep field limit =>
      have field := quotes field (by simp [texts])
      exact (((field.after (by decide)).before (by decide)).before
        (Text.visible_repr limit).oneLine).before (by decide)
  | invalidIdentifier constant | duplicateConstant constant =>
      have constant := quotes constant (by simp [texts])
      exact (constant.after (by decide)).before (by decide)
  | duplicateField field context =>
      have field := quotes field (by simp [texts])
      have context := quotes context (by simp [texts])
      exact ((field.after (by decide)).before (by decide)).append context

end Quotes

end Error

end ContentSchema
