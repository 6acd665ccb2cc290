import Mathlib
import ContentSchema.Text.Literal

/-!
# Literals read back

Reading undoes writing.  Whatever characters a text holds, its literal is read as
that text, and what follows the closing quote is left untouched.  The encoded
text holds no control character, so a literal never leaves the line on which it
starts.

The only escapes that writing produces are the short ones and the four digits of
a control character, and each is read in one step; this step lemma carries the
induction over the text.
-/

namespace ContentSchema.Text.Literal

/-! ## Hexadecimal digits -/

theorem hexValue_hexDigit :
    ∀ value < 16, hexValue (hexDigit value) = some value := by
  decide

/-- A control character is read from the two digits that writing gives it. -/
theorem readUnit_control
    (character : Char)
    (control : character.toNat < 0x20)
    (rest : List Char) :
    readUnit
        ('0' :: '0' :: hexDigit (character.toNat / 16)
          :: hexDigit (character.toNat % 16) :: rest) =
      some (character.toNat, rest) := by
  have high : hexValue (hexDigit (character.toNat / 16)) =
      some (character.toNat / 16) :=
    hexValue_hexDigit _ (by omega)
  have low : hexValue (hexDigit (character.toNat % 16)) =
      some (character.toNat % 16) :=
    hexValue_hexDigit _ (by omega)
  have zero : hexValue '0' = some 0 := by decide
  have value : character.toNat / 16 * 16 + character.toNat % 16 =
      character.toNat := by
    omega
  simp [readUnit, zero, high, low, value]

/-! ## One character -/

/-- A short escape is read as the character that it stands for, and is no code point. -/
theorem ofShortEscape_of_shortEscape
    {character letter : Char}
    (short : shortEscape character = some letter) :
    ofShortEscape letter = some character ∧ letter ≠ 'u' := by
  unfold shortEscape at short
  split_ifs at short <;> cases short <;> subst_vars <;> decide

theorem ordinary_of_shortEscape
    {character : Char}
    (noShort : shortEscape character = none) :
    character ≠ '"' ∧ character ≠ '\\' := by
  constructor
  · rintro rfl
    exact absurd noShort (by decide)
  · rintro rfl
    exact absurd noShort (by decide)

/-- The four digits of a control character are read as that character. -/
theorem readCodePoint_control
    (character : Char)
    (control : character.toNat < 0x20)
    (rest : List Char) :
    readCodePoint
        ('0' :: '0' :: hexDigit (character.toNat / 16)
          :: hexDigit (character.toNat % 16) :: rest) =
      some (character, rest) := by
  have noLow : isLowHalf character.toNat = false := by
    simp only [isLowHalf, Bool.and_eq_false_iff, decide_eq_false_iff_not]
    omega
  have noHigh : isHighHalf character.toNat = false := by
    simp only [isHighHalf, Bool.and_eq_false_iff, decide_eq_false_iff_not]
    omega
  simp [readCodePoint, readUnit_control character control, noLow, noHigh]

/-- The step of the reading: one escaped character is read as that character. -/
theorem readCharacter_escape (character : Char) (rest : List Char) :
    readCharacter (escape character ++ rest) = some (character, rest) := by
  cases short : shortEscape character with
  | some letter =>
      have back := ofShortEscape_of_shortEscape short
      simp only [escape, short, List.cons_append, List.nil_append]
      rw [readCharacter]
      · simp [back.1]
      · exact back.2
  | none =>
      have ordinary := ordinary_of_shortEscape short
      by_cases control : character.toNat < 0x20
      · simp only [escape, short, control, if_true, List.cons_append,
          List.nil_append, readCharacter]
        exact readCodePoint_control character control rest
      · simp only [escape, short, control, if_false, List.cons_append,
          List.nil_append]
        rw [readCharacter]
        · simp [ordinary, control]
        · exact fun digits equal => absurd equal ordinary.2
        · exact fun letter after equal => absurd equal ordinary.2

/-- No escape starts with a quote, so none ends the literal. -/
theorem head?_escape (character : Char) (rest : List Char) :
    (escape character ++ rest).head? ≠ some '"' := by
  cases short : shortEscape character with
  | some letter =>
      simp [escape, short]
  | none =>
      have ordinary := ordinary_of_shortEscape short
      by_cases control : character.toNat < 0x20
      · simp [escape, short, control]
      · simpa [escape, short, control] using ordinary.1

/-! ## Whole texts -/

/-- An encoded text up to its closing quote is read as the text. -/
theorem readBody_encode (characters rest : List Char) :
    readBody (encode characters ++ '"' :: rest) = some (characters, rest) := by
  induction characters with
  | nil =>
      rw [readBody]
      simp
  | cons character characters ih =>
      have noQuote := head?_escape character (encode characters ++ '"' :: rest)
      have step := readCharacter_escape character (encode characters ++ '"' :: rest)
      rw [readBody, encode_cons, List.append_assoc, if_neg noQuote]
      split
      · rename_i failed
        exact absurd (step.symm.trans failed) (by simp)
      · rename_i read after success
        cases step.symm.trans success
        rw [ih]

/-! ## No control character is left -/

theorem hexDigit_above_controls :
    ∀ value < 16, 0x20 ≤ (hexDigit value).toNat := by
  decide

theorem shortEscape_above_controls
    {character letter : Char}
    (short : shortEscape character = some letter) :
    0x20 ≤ letter.toNat := by
  unfold shortEscape at short
  split_ifs at short <;> cases short <;> decide

/-- No character of an escape is a control character. -/
theorem above_controls_of_mem_escape
    {character written : Char}
    (member : written ∈ escape character) :
    0x20 ≤ written.toNat := by
  cases short : shortEscape character with
  | some letter =>
      simp only [escape, short, List.mem_cons, List.not_mem_nil, or_false] at member
      rcases member with rfl | rfl
      · decide
      · exact shortEscape_above_controls short
  | none =>
      by_cases control : character.toNat < 0x20
      · simp only [escape, short, control, if_true, List.mem_cons,
          List.not_mem_nil, or_false] at member
        rcases member with rfl | rfl | rfl | rfl | rfl | rfl
        · decide
        · decide
        · decide
        · decide
        · exact hexDigit_above_controls _ (by omega)
        · exact hexDigit_above_controls _ (by omega)
      · simp only [escape, short, control, if_false, List.mem_singleton] at member
        subst member
        exact Nat.le_of_not_lt control

/-- Every character of an encoded text stands above the control characters. -/
theorem above_controls_of_mem_encode
    {characters : List Char}
    {written : Char}
    (member : written ∈ encode characters) :
    0x20 ≤ written.toNat := by
  rcases List.mem_flatMap.mp member with ⟨character, _, inEscape⟩
  exact above_controls_of_mem_escape inEscape

end ContentSchema.Text.Literal

namespace ContentSchema.Text

/-- No control character stands in a literal, whatever its text. -/
theorem not_mem_literal
    {character : Char}
    (control : character.toNat < 0x20)
    (text : String) :
    character ∉ (literal text).toList := by
  intro member
  rw [toList_literal] at member
  simp only [List.mem_cons, List.mem_append, List.not_mem_nil, or_false] at member
  rcases member with rfl | encoded | rfl
  · exact absurd control (by decide)
  · exact absurd control (Nat.not_lt.mpr (Literal.above_controls_of_mem_encode encoded))
  · exact absurd control (by decide)

end ContentSchema.Text
