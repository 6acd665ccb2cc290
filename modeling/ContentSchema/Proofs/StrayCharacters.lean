import Mathlib
import ContentSchema.Proofs.CharacterRanges
import ContentSchema.Proofs.NameCharacters

/-!
# Accepted characters that are not those of names

Identifiers are accepted by their letters and numbers, which are not quite the characters
of names.  Of the characters that are accepted in a later place, names do not have the
other numbers, such as superscripts and fractions, but for a few that ID_Continue has, and
they do not have the letters that count as symbols.  A first character may also be a vowel
sign or another mark that counts as a letter, and hardly any of these starts a name.

These strays are all: the tables of both sides are compared, and every other accepted
character is one of names.
-/

namespace ContentSchema.Text

/-! ## Strays -/

/--
The alphabetic characters that count as symbols and not as letters of names: circled and
squared letters, and the vertical tilde.
-/
def symbolLetterRanges : List (Nat × Nat) :=
  [ (0x24B6, 0x24E9), (0x2E2F, 0x2E2F), (0x1F130, 0x1F149), (0x1F150, 0x1F169),
    (0x1F170, 0x1F189) ]

/-- The combining marks that a name may start with. -/
def startMarkRanges : List (Nat × Nat) :=
  [ (0x1885, 0x1886) ]

/-- The characters that are accepted in the first place, but that no name starts with. -/
def isStrayStart (character : Char) : Bool :=
  inRanges symbolLetterRanges character ||
    (isAlphabetic character && inRanges combiningMarkRanges character &&
      !inRanges startMarkRanges character)

/-- The characters that are accepted in a later place, but that no name has. -/
def isStrayPart (character : Char) : Bool :=
  inRanges symbolLetterRanges character ||
    (inRanges otherNumberRanges character && !inRanges otherContinueRanges character)

/-! ## The tables compared -/

/-- How the tables of accepted characters and those of names lie to each other. -/
structure TablesCompared : Prop where
  alphabetic : [idStartRanges, combiningMarkRanges, symbolLetterRanges].foldl without
    alphabeticRanges = []
  letterNumbers : without letterNumberRanges idStartRanges = []
  symbolLetters : without symbolLetterRanges alphabeticRanges = []
  startMarks : without startMarkRanges idStartRanges = []
  /-- The marks that are no starts, and the gaps between them. -/
  otherMarks : Ascends 0 (without combiningMarkRanges startMarkRanges) ∧
    without idStartRanges (gaps 0 (without combiningMarkRanges startMarkRanges)) = []
  strays : ∀ ranges ∈ [symbolLetterRanges, without otherNumberRanges otherContinueRanges],
    Ascends 0 ranges ∧ ∀ table ∈ idContinueTables, without table (gaps 0 ranges) = []

-- Each comparison is one walk along both tables, so that it can be decided as a whole.
theorem tablesCompared : TablesCompared where
  alphabetic := by decide +kernel
  letterNumbers := by decide +kernel
  symbolLetters := by decide +kernel
  startMarks := by decide +kernel
  otherMarks := by decide +kernel
  strays := by decide +kernel

theorem not_isStray_signs :
    isStrayStart '$' = false ∧ isStrayStart '_' = false ∧ isStrayPart '$' = false := by
  decide +kernel

/-! ## Single characters -/

/-- An alphabetic character may start a name, or else it is a mark or counts as a symbol. -/
theorem cases_of_isAlphabetic
    {character : Char}
    (alphabetic : isAlphabetic character = true) :
    inRanges idStartRanges character = true ∨
      inRanges combiningMarkRanges character = true ∨
        inRanges symbolLetterRanges character = true := by
  rcases inRanges_of_covered tablesCompared.alphabetic alphabetic with ⟨table, member, inside⟩
  simp only [List.mem_cons, List.not_mem_nil, or_false] at member
  rcases member with rfl | rfl | rfl
  · exact .inl inside
  · exact .inr (.inl inside)
  · exact .inr (.inr inside)

theorem isNameStart_iff (character : Char) :
    isNameStart character = true ↔
      character = '$' ∨ character = '_' ∨ inRanges idStartRanges character = true := by
  simp only [isNameStart, Bool.or_eq_true, beq_iff_eq, or_assoc]

/-- The joiners need no mention, since ID_Continue has them. -/
theorem isNamePart_iff (character : Char) :
    isNamePart character = true ↔
      character = '$' ∨ ∃ table ∈ idContinueTables, inRanges table character = true := by
  have joiners : character = '\u200c' ∨ character = '\u200d' →
      ∃ table ∈ idContinueTables, inRanges table character = true := by
    rintro (rfl | rfl)
    · exact ⟨otherContinueRanges, by simp [idContinueTables], by decide⟩
    · exact ⟨otherContinueRanges, by simp [idContinueTables], by decide⟩
  simp only [isNamePart, Bool.or_eq_true, beq_iff_eq, List.any_eq_true, or_assoc]
  constructor
  · rintro (dollar | joiner | joiner | inside)
    · exact .inl dollar
    · exact .inr (joiners (.inl joiner))
    · exact .inr (joiners (.inr joiner))
    · exact .inr inside
  · rintro (dollar | inside)
    · exact .inl dollar
    · exact .inr (.inr (.inr inside))

/-- A stray start is a letter that counts as a symbol, or an alphabetic mark. -/
theorem isStrayStart_iff_cases (character : Char) :
    isStrayStart character = true ↔
      inRanges symbolLetterRanges character = true ∨
        isAlphabetic character = true ∧ inRanges combiningMarkRanges character = true ∧
          inRanges startMarkRanges character = false := by
  simp only [isStrayStart, Bool.or_eq_true, Bool.and_eq_true, Bool.not_eq_true', and_assoc]

/-- A stray part is a letter that counts as a symbol, or a number that is no digit. -/
theorem isStrayPart_iff_cases (character : Char) :
    isStrayPart character = true ↔
      inRanges symbolLetterRanges character = true ∨
        inRanges otherNumberRanges character = true ∧
          inRanges otherContinueRanges character = false := by
  simp only [isStrayPart, Bool.or_eq_true, Bool.and_eq_true, Bool.not_eq_true']

theorem not_isStrayStart_of_idStart
    {character : Char}
    (start : inRanges idStartRanges character = true) :
    isStrayStart character = false := by
  rw [Bool.eq_false_iff, ne_eq, isStrayStart_iff_cases]
  rintro (symbol | ⟨_, mark, other⟩)
  · rcases tablesCompared.strays symbolLetterRanges (by simp) with ⟨ascends, apart⟩
    rw [not_inRanges_of_apart ascends (apart idStartRanges (by simp [idContinueTables])) start]
      at symbol
    cases symbol
  · rcases tablesCompared.otherMarks with ⟨ascends, apart⟩
    have left := inRanges_without_of_not mark other
    rw [not_inRanges_of_apart ascends apart start] at left
    cases left

theorem not_isStrayPart_of_idContinue
    {table : List (Nat × Nat)}
    (listed : table ∈ idContinueTables)
    {character : Char}
    (inside : inRanges table character = true) :
    isStrayPart character = false := by
  have outside : ∀ ranges ∈ [symbolLetterRanges, without otherNumberRanges otherContinueRanges],
      inRanges ranges character = false := by
    intro ranges member
    rcases tablesCompared.strays ranges member with ⟨ascends, apart⟩
    exact not_inRanges_of_apart ascends (apart table listed) inside
  rw [Bool.eq_false_iff, ne_eq, isStrayPart_iff_cases]
  rintro (symbol | ⟨number, other⟩)
  · rw [outside symbolLetterRanges (by simp)] at symbol
    cases symbol
  · have left := inRanges_without_of_not number other
    rw [outside (without otherNumberRanges otherContinueRanges) (by simp)] at left
    cases left

/-- The strays of the first place are the accepted starts that are not those of names. -/
theorem isStrayStart_iff (character : Char) :
    isStrayStart character = true ↔
      isIdentifierStart character = true ∧ ¬ isNameStart character = true := by
  constructor
  · intro stray
    refine ⟨?_, ?_⟩
    · rw [isIdentifierStart, Bool.or_eq_true]
      rcases (isStrayStart_iff_cases _).mp stray with symbol | ⟨letter, _⟩
      · exact .inl (inRanges_of_subset tablesCompared.symbolLetters symbol)
      · exact .inl letter
    · rw [isNameStart_iff]
      rintro (rfl | rfl | start)
      · rw [not_isStray_signs.1] at stray
        cases stray
      · rw [not_isStray_signs.2.1] at stray
        cases stray
      · rw [not_isStrayStart_of_idStart start] at stray
        cases stray
  · rintro ⟨accepted, other⟩
    simp only [isNameStart_iff, not_or] at other
    rcases other with ⟨dollar, underscore, noStart⟩
    simp only [isIdentifierStart, isIdentifierMark, Bool.or_eq_true, beq_iff_eq] at accepted
    rw [isStrayStart_iff_cases]
    rcases accepted with letter | sign | sign
    · rcases cases_of_isAlphabetic letter with start | mark | symbol
      · exact absurd start noStart
      · refine .inr ⟨letter, mark, ?_⟩
        rw [Bool.eq_false_iff]
        exact fun start => noStart (inRanges_of_subset tablesCompared.startMarks start)
      · exact .inl symbol
    · exact absurd sign underscore
    · exact absurd sign dollar

/-- The strays of later places are the accepted parts that are not those of names. -/
theorem isStrayPart_iff (character : Char) :
    isStrayPart character = true ↔
      isIdentifierPart character = true ∧ ¬ isNamePart character = true := by
  constructor
  · intro stray
    refine ⟨?_, ?_⟩
    · simp only [isIdentifierPart, isNumeric, Bool.or_eq_true]
      rcases (isStrayPart_iff_cases _).mp stray with symbol | ⟨number, _⟩
      · exact .inl (.inl (inRanges_of_subset tablesCompared.symbolLetters symbol))
      · exact .inl (.inr (.inr number))
    · rw [isNamePart_iff]
      rintro (rfl | ⟨table, listed, inside⟩)
      · rw [not_isStray_signs.2.2] at stray
        cases stray
      · rw [not_isStrayPart_of_idContinue listed inside] at stray
        cases stray
  · rintro ⟨accepted, other⟩
    simp only [isNamePart_iff, idContinueTables, List.exists_mem_cons_iff, List.not_mem_nil,
      false_and, exists_false, or_false, not_or] at other
    rcases other with ⟨dollar, noStart, noMark, noDigit, noConnector, noOther⟩
    simp only [isIdentifierPart, isIdentifierMark, isNumeric, Bool.or_eq_true, beq_iff_eq]
      at accepted
    rw [isStrayPart_iff_cases]
    rcases accepted with (letter | (digit | number) | number) | (sign | sign)
    · rcases cases_of_isAlphabetic letter with start | mark | symbol
      · exact absurd start noStart
      · exact absurd mark noMark
      · exact .inl symbol
    · exact absurd digit noDigit
    · exact absurd (inRanges_of_subset tablesCompared.letterNumbers number) noStart
    · exact .inr ⟨number, Bool.eq_false_iff.mpr noOther⟩
    · subst sign
      exact absurd (by decide) noConnector
    · exact absurd sign dollar

end ContentSchema.Text
