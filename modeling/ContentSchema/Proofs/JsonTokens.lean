import Mathlib
import ContentSchema.Json.Reader
import ContentSchema.Proofs.LiteralReading

/-!
# Tokens of written values

Each token is read back from its text whatever follows it, except that a numeral has
to end: no digit, point or exponent may stand against it.  A text spells tokens when
they are read in front of any rest that does not go on with a numeral.

Texts that spell tokens are put together by joining them with commas, which is all
that the text of a container needs.
-/

namespace ContentSchema.Json

open Text (Literal.encode Literal.readBody_encode literal toList_literal)

/-! ## Numerals -/

/-- A text that no numeral in front of it goes on with. -/
def EndsNumeral (rest : List Char) : Prop :=
  ∀ character ∈ rest.head?,
    isDigit character = false ∧ character ≠ '.' ∧ character ≠ 'e' ∧ character ≠ 'E'

/-- Digits are read as far as they go. -/
theorem readDigits_append
    {digits rest : List Char}
    (all : ∀ digit ∈ digits, isDigit digit = true)
    (filled : digits ≠ [])
    (ends : EndsNumeral rest) :
    readDigits (digits ++ rest) = some (digits, rest) := by
  have stops : rest.takeWhile isDigit = [] ∧ rest.dropWhile isDigit = rest := by
    cases rest with
    | nil =>
        exact ⟨rfl, rfl⟩
    | cons character rest =>
        have noDigit := (ends character rfl).1
        simp [noDigit]
  unfold readDigits
  rw [List.takeWhile_append_of_pos all, List.dropWhile_append_of_pos all, stops.1, stops.2,
    List.append_nil]
  cases digits with
  | nil =>
      exact absurd rfl filled
  | cons digit digits =>
      rfl

theorem isDigit_of_mem_toDigits
    {number : Nat} {digit : Char}
    (member : digit ∈ Nat.toDigits 10 number) :
    isDigit digit = true :=
  Nat.isDigit_of_mem_toDigits (by decide) (by decide) member

theorem exists_toDigits_eq_cons (number : Nat) :
    ∃ first others, Nat.toDigits 10 number = first :: others ∧ isDigit first = true := by
  rcases List.exists_cons_of_ne_nil (Nat.toDigits_ne_nil (n := number) (b := 10)) with
    ⟨first, others, digits⟩
  have member : first ∈ Nat.toDigits 10 number := by
    rw [digits]
    exact List.mem_cons_self
  exact ⟨first, others, digits, isDigit_of_mem_toDigits member⟩

/-- The digits of a positive number do not start with a nought. -/
theorem head?_toDigits_ne_zero
    {number : Nat}
    (positive : 0 < number) :
    (Nat.toDigits 10 number).head? ≠ some '0' := by
  induction number using Nat.strongRecOn with
  | ind number ih =>
      by_cases small : number < 10
      · rw [Nat.toDigits_of_lt_base small]
        interval_cases number <;> decide
      · have smaller := ih (number / 10) (by omega) (by omega)
        rw [Nat.toDigits_of_base_le (by decide) (by omega)]
        rcases exists_toDigits_eq_cons (number / 10) with ⟨first, others, digits, _⟩
        rw [digits] at smaller ⊢
        exact smaller

/-- The digits of a number have that number as their value. -/
theorem natural_toDigits (number : Nat) :
    Numeral.natural (Nat.toDigits 10 number) = number := by
  have same : ∀ digits, Numeral.natural digits = Nat.ofDigitChars 10 digits 0 := by
    intro digits
    unfold Numeral.natural Nat.ofDigitChars
    congr 1
    funext value digit
    rw [Nat.mul_comm]
    rfl
  rw [same]
  exact Nat.ofDigitChars_toDigits (by decide) (by decide)

/-- The digits of a number are read as a whole part: a zero in front is the number itself. -/
theorem readWhole_toDigits
    (number : Nat)
    {rest : List Char}
    (ends : EndsNumeral rest) :
    readWhole (Nat.toDigits 10 number ++ rest) = some (Nat.toDigits 10 number, rest) := by
  have read : readDigits (Nat.toDigits 10 number ++ rest) =
      some (Nat.toDigits 10 number, rest) :=
    readDigits_append (fun _ member => isDigit_of_mem_toDigits member) Nat.toDigits_ne_nil ends
  rcases Nat.eq_zero_or_pos number with rfl | positive
  · cases rest with
    | nil =>
        rfl
    | cons next rest =>
        have noDigit := (ends next rfl).1
        have zero : Nat.toDigits 10 0 = ['0'] := rfl
        rw [zero]
        simp [readWhole, noDigit]
  · have nonzero := head?_toDigits_ne_zero positive
    unfold readWhole
    split
    · rename_i after same
      rcases exists_toDigits_eq_cons number with ⟨first, others, digits, _⟩
      rw [digits] at same nonzero
      cases same
      exact absurd rfl nonzero
    · exact read

/-- Digits with or without a sign are a numeral without fraction and exponent. -/
theorem readNumeral_toDigits
    (number : Nat)
    {rest : List Char}
    (ends : EndsNumeral rest) :
    readNumeral (Nat.toDigits 10 number ++ rest) =
        some (⟨false, Nat.toDigits 10 number, none, none⟩, rest) ∧
      readNumeral ('-' :: (Nat.toDigits 10 number ++ rest)) =
        some (⟨true, Nat.toDigits 10 number, none, none⟩, rest) := by
  have noFraction : readFraction rest = some (none, rest) := by
    unfold readFraction
    split
    · exact absurd rfl (ends _ rfl).2.1
    · rfl
  have noExponent : readExponent rest = some (none, rest) := by
    unfold readExponent
    split
    · rename_i letter after
      have noLetter : ¬ (letter = 'e' ∨ letter = 'E') := not_or.mpr (ends letter rfl).2.2
      rw [if_neg noLetter]
    · rfl
  have unsigned : (Nat.toDigits 10 number ++ rest).head? ≠ some '-' := by
    rcases exists_toDigits_eq_cons number with ⟨first, others, digits, digit⟩
    rw [digits]
    intro same
    cases same
    cases digit
  constructor
  · simp only [readNumeral, unsigned, if_false, readWhole_toDigits number ends, noFraction,
      noExponent, Option.bind_eq_bind, Option.bind_some, decide_false]
  · simp [readNumeral, readWhole_toDigits number ends, noFraction, noExponent]

/-- A whole number that has a numeral: it fits the signed or the unsigned 64-bit integers. -/
def IsWhole (value : Int) : Prop :=
  -9223372036854775808 ≤ value ∧ value ≤ Significand.limit

/-- The numeral of a whole number starts with a sign or a digit and has that value. -/
theorem exists_numeral_of_isWhole
    {value : Int}
    (whole : IsWhole value) :
    ∃ first others, (toString value).toList = first :: others ∧
      (isDigit first = true ∨ first = '-') ∧
        ∃ numeral, numeral.document? = some (.integer value) ∧
          ∀ rest, EndsNumeral rest →
            readNumeral (first :: others ++ rest) = some (numeral, rest) := by
  cases value with
  | ofNat number =>
      have text : (toString (Int.ofNat number)).toList = Nat.toDigits 10 number :=
        Nat.toList_repr
      have fits : number ≤ Significand.limit := Int.ofNat_le.mp whole.2
      rcases exists_toDigits_eq_cons number with ⟨first, others, digits, digit⟩
      refine ⟨first, others, text.trans digits, .inl digit,
        ⟨false, Nat.toDigits 10 number, none, none⟩, ?_, ?_⟩
      · simp [Numeral.document?, Numeral.integer?, natural_toDigits, fits]
      · intro rest ends
        rw [← digits]
        exact (readNumeral_toDigits number ends).1
  | negSucc number =>
      have text : (toString (Int.negSucc number)).toList =
          '-' :: Nat.toDigits 10 (number + 1) := by
        have shown : toString (Int.negSucc number) = "-" ++ Nat.repr (number + 1) := rfl
        rw [shown, String.toList_append, Nat.toList_repr]
        rfl
      have fits : number + 1 ≤ 9223372036854775808 := by
        have lower := whole.1
        omega
      refine ⟨'-', Nat.toDigits 10 (number + 1), text, .inr rfl,
        ⟨true, Nat.toDigits 10 (number + 1), none, none⟩, ?_, ?_⟩
      · simp [Numeral.document?, Numeral.integer?, natural_toDigits, fits, Int.negSucc_eq]
      · intro rest ends
        exact (readNumeral_toDigits (number + 1) ends).2

/-! ## Single tokens -/

/-- A text has tokens, which are found in as many steps as it has characters. -/
def Tokenized (text : List Char) (tokens : List Token) : Prop :=
  ∀ steps, text.length ≤ steps → tokensWithin steps text = some tokens

theorem tokenized_nil : Tokenized [] [] := by
  intro steps _
  cases steps <;> rfl

/-- A token in front of a text that has tokens. -/
theorem tokenized_append
    {first : Char} {others rest : List Char} {token : Token} {tokens : List Token}
    (read : readToken (first :: others ++ rest) = some (token, rest))
    (visible : isSeparating first = false)
    (tokenized : Tokenized rest tokens) :
    Tokenized (first :: others ++ rest) (token :: tokens) := by
  intro steps enough
  cases steps with
  | zero =>
      exact absurd enough (by simp)
  | succ steps =>
      have inside : rest.length ≤ steps := by
        simp only [List.length_append, List.length_cons] at enough
        omega
      have starts : (first :: others ++ rest).dropWhile isSeparating =
          first :: (others ++ rest) := by
        simp [visible]
      have found : readToken (first :: (others ++ rest)) = some (token, rest) := read
      simp only [tokensWithin, starts, found, tokenized steps inside, Option.map_some]

/-- Blanks in front of a text do not matter. -/
theorem tokenized_separating
    {blanks rest : List Char} {tokens : List Token}
    (separating : ∀ character ∈ blanks, isSeparating character = true)
    (tokenized : Tokenized rest tokens) :
    Tokenized (blanks ++ rest) tokens := by
  intro steps enough
  have inside : rest.length ≤ steps := by
    rw [List.length_append] at enough
    omega
  have found := tokenized steps inside
  cases steps with
  | zero =>
      have none : rest = [] := List.length_eq_zero_iff.mp (Nat.le_zero.mp inside)
      subst none
      cases found
      have all : (blanks ++ []).all isSeparating = true := by
        simpa using separating
      simp only [tokensWithin, all, if_true]
  | succ steps =>
      have starts : (blanks ++ rest).dropWhile isSeparating = rest.dropWhile isSeparating :=
        List.dropWhile_append_of_pos separating
      simp only [tokensWithin, starts] at found ⊢
      exact found

/-- What starts with a digit or a minus sign can only be a numeral. -/
theorem readToken_numeral
    {first : Char} {others rest : List Char} {numeral : Numeral} {value : Document}
    (starts : isDigit first = true ∨ first = '-')
    (read : readNumeral (first :: others) = some (numeral, rest))
    (worth : numeral.document? = some value) :
    readToken (first :: others) = some (.scalar value, rest) := by
  have apart : ∀ {other : Char} {after : List Char}, first :: others = other :: after →
      isDigit other = true ∨ other = '-' := by
    rintro other after same
    cases same
    exact starts
  unfold readToken
  split
  case h_1 same =>
    cases same
  case h_12 =>
    simp [read, worth]
  all_goals
    rename_i same
    exact absurd (apart same) (by decide)

/-! ## Texts that spell tokens -/

/-- A text has tokens in front of any rest that has and that ends its last numeral. -/
def Spells (text : String) (tokens : List Token) : Prop :=
  ∀ rest more, EndsNumeral rest → Tokenized rest more →
    Tokenized (text.toList ++ rest) (tokens ++ more)

/-- A text that is read as a token, whatever follows it, spells that token. -/
theorem spells_of_readToken
    {text : String} {token : Token} {first : Char} {others : List Char}
    (written : text.toList = first :: others)
    (visible : isSeparating first = false)
    (read : ∀ rest, EndsNumeral rest →
      readToken (first :: others ++ rest) = some (token, rest)) :
    Spells text [token] := by
  intro rest more ends tokenized
  rw [written]
  exact tokenized_append (read rest ends) visible tokenized

theorem spells_null : Spells "null" [.scalar .null] :=
  spells_of_readToken rfl rfl fun _ _ => rfl

theorem spells_boolean (value : Bool) :
    Spells (if value then "true" else "false") [.scalar (.boolean value)] := by
  cases value with
  | false =>
      exact spells_of_readToken rfl rfl fun _ _ => rfl
  | true =>
      exact spells_of_readToken rfl rfl fun _ _ => rfl

theorem spells_literal (text : String) : Spells (literal text) [.string text] := by
  refine spells_of_readToken (toList_literal text) rfl fun rest _ => ?_
  simp [readToken, Literal.readBody_encode]

theorem isSeparating_of_isDigit
    {character : Char}
    (digit : isDigit character = true) :
    isSeparating character = false := by
  by_contra separating
  simp only [isSeparating, Bool.not_eq_false, Bool.or_eq_true, beq_iff_eq] at separating
  rcases separating with ((rfl | rfl) | rfl) | rfl <;> cases digit

/-- A whole number in the range spells itself. -/
theorem spells_integer
    {value : Int}
    (whole : IsWhole value) :
    Spells (toString value) [.scalar (.integer value)] := by
  rcases exists_numeral_of_isWhole whole with
    ⟨first, others, written, starts, numeral, worth, read⟩
  refine spells_of_readToken written ?_ fun rest ends =>
    readToken_numeral starts (read rest ends) worth
  rcases starts with digit | rfl
  · exact isSeparating_of_isDigit digit
  · rfl

/-! ## Punctuation and lists -/

/-- A text of one character that is a token whatever follows and ends a numeral. -/
structure Punctuates (text : String) (mark : Char) (token : Token) : Prop where
  written : text.toList = [mark]
  visible : isSeparating mark = false
  ends : isDigit mark = false ∧ mark ≠ '.' ∧ mark ≠ 'e' ∧ mark ≠ 'E'
  read : ∀ rest, readToken (mark :: rest) = some (token, rest)

theorem punctuates_comma : Punctuates "," ',' .comma :=
  ⟨rfl, rfl, by decide, fun _ => rfl⟩

theorem punctuates_colon : Punctuates ":" ':' .colon :=
  ⟨rfl, rfl, by decide, fun _ => rfl⟩

theorem punctuates_openArray : Punctuates "[" '[' .openArray :=
  ⟨rfl, rfl, by decide, fun _ => rfl⟩

theorem punctuates_closeArray : Punctuates "]" ']' .closeArray :=
  ⟨rfl, rfl, by decide, fun _ => rfl⟩

theorem punctuates_openObject : Punctuates "\x7b" '\x7b' .openObject :=
  ⟨rfl, rfl, by decide, fun _ => rfl⟩

theorem punctuates_closeObject : Punctuates "\x7d" '\x7d' .closeObject :=
  ⟨rfl, rfl, by decide, fun _ => rfl⟩

/-- Texts that spell tokens, one behind the other: the second ends a numeral of the first. -/
theorem Spells.append
    {first second : String} {before after : List Token}
    (spellsFirst : Spells first before)
    (spellsSecond : Spells second after)
    (ends : ∀ rest, EndsNumeral (second.toList ++ rest)) :
    Spells (first ++ second) (before ++ after) := by
  intro rest more endsRest found
  rw [String.toList_append, List.append_assoc, List.append_assoc]
  exact spellsFirst _ _ (ends rest) (spellsSecond rest more endsRest found)

namespace Punctuates

variable {text : String} {mark : Char} {token : Token}

theorem spells (punctuates : Punctuates text mark token) : Spells text [token] :=
  spells_of_readToken punctuates.written punctuates.visible fun rest _ => punctuates.read rest

/-- Punctuation in front of a text that spells tokens, whatever that text starts with. -/
theorem spells_append
    (punctuates : Punctuates text mark token)
    {other : String} {tokens : List Token}
    (spells : Spells other tokens) :
    Spells (text ++ other) (token :: tokens) := by
  intro rest more ends found
  rw [String.toList_append, List.append_assoc, punctuates.written]
  exact @tokenized_append mark [] _ token _ (punctuates.read _) punctuates.visible
    (spells rest more ends found)

theorem endsNumeral
    (punctuates : Punctuates text mark token)
    (other : String)
    (rest : List Char) :
    EndsNumeral ((text ++ other).toList ++ rest) := by
  rw [String.toList_append, punctuates.written]
  intro character same
  cases same
  exact punctuates.ends

end Punctuates

theorem spells_empty : Spells "" [] := by
  intro rest more _ found
  exact found

/-- A text of blanks. -/
def IsSeparating (blanks : String) : Prop :=
  ∀ character ∈ blanks.toList, isSeparating character = true

theorem endsNumeral_of_isSeparating
    {blanks : String}
    (separating : IsSeparating blanks) :
    EndsNumeral blanks.toList := by
  intro character first
  have blank := separating character (List.mem_of_mem_head? first)
  simp only [isSeparating, Bool.or_eq_true, beq_iff_eq] at blank
  rcases blank with ((rfl | rfl) | rfl) | rfl <;> decide

theorem tokenized_of_isSeparating
    {blanks : String}
    (separating : IsSeparating blanks) :
    Tokenized blanks.toList [] := by
  have tokenized := tokenized_separating separating tokenized_nil
  rw [List.append_nil] at tokenized
  exact tokenized

/-- Blanks in front of a text that spells tokens. -/
theorem spells_separating
    {blanks text : String} {tokens : List Token}
    (separating : IsSeparating blanks)
    (spells : Spells text tokens) :
    Spells (blanks ++ text) tokens := by
  intro rest more ends found
  rw [String.toList_append, List.append_assoc]
  exact tokenized_separating separating (spells rest more ends found)

/-- Texts that spell tokens, joined by commas. -/
theorem spells_intercalate
    {parts : List String} {pieces : List (List Token)}
    (inside : List.Forall₂ Spells parts pieces) :
    Spells (String.intercalate "," parts) ([Token.comma].intercalate pieces) := by
  induction inside with
  | nil =>
      rw [String.intercalate_nil, List.intercalate_nil]
      exact spells_empty
  | @cons part piece parts pieces first others ih =>
      cases others with
      | nil =>
          rw [String.intercalate_singleton, List.intercalate_singleton]
          exact first
      | cons second others =>
          rw [String.intercalate_cons_cons, List.intercalate_cons_cons, String.append_assoc,
            List.append_assoc]
          exact first.append (punctuates_comma.spells_append ih)
            (punctuates_comma.endsNumeral _)

/-- All tokens of a text that spells them, with blanks at its end. -/
theorem tokens_of_spells
    {text blanks : String} {found : List Token}
    (spells : Spells text found)
    (separating : IsSeparating blanks) :
    tokens (text ++ blanks) = some found := by
  have tokenized := spells blanks.toList [] (endsNumeral_of_isSeparating separating)
    (tokenized_of_isSeparating separating)
  rw [List.append_nil, ← String.toList_append] at tokenized
  exact tokenized _ (Nat.le_refl _)

end ContentSchema.Json
