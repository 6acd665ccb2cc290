import Mathlib
import ContentSchema.Text.Identifier

/-!
# The characters of identifiers

A bare name is a run of identifier characters, and what the module writes around
names is made of other characters.  So a name ends where the next delimiter
stands, and it never holds a line feed or a quote.
-/

namespace ContentSchema.Text

/-- The characters other than those of names that the module writes outside of literals. -/
def delimiters : List Char :=
  [ '\n', ' ', '"', '(', ')', ',', '.', ':', ';', '=', '>', '?', '[', ']',
    '\x7b', '\x7d' ]

/-- Evaluated at once, since every answer takes a search through the whole tables. -/
theorem isIdentifierPart_delimiters :
    (delimiters.all fun character => !isIdentifierPart character) = true := by
  decide +kernel

theorem not_isIdentifierPart
    {character : Char}
    (delimiter : character ∈ delimiters) :
    isIdentifierPart character = false := by
  have outside := List.all_eq_true.mp isIdentifierPart_delimiters character delimiter
  simpa using outside

theorem isIdentifierPart_of_isIdentifierStart
    {character : Char}
    (start : isIdentifierStart character = true) :
    isIdentifierPart character = true := by
  simp only [isIdentifierStart, Bool.or_eq_true] at start
  simp only [isIdentifierPart, Bool.or_eq_true]
  rcases start with letter | mark
  · exact .inl (.inl letter)
  · exact .inr mark

/-- A text in the shape of an identifier is a run of identifier characters. -/
theorem isIdentifierPart_of_mem_shape
    {text : String}
    (shape : hasIdentifierShape text = true)
    {character : Char}
    (member : character ∈ text.toList) :
    isIdentifierPart character = true := by
  unfold hasIdentifierShape at shape
  split at shape
  · cases shape
  · rename_i first rest characters
    rw [characters] at member
    rw [Bool.and_eq_true, List.all_eq_true] at shape
    rcases List.mem_cons.mp member with rfl | later
    · exact isIdentifierPart_of_isIdentifierStart shape.1
    · exact shape.2 character later

theorem toList_ne_nil_of_shape
    {text : String}
    (shape : hasIdentifierShape text = true) :
    text.toList ≠ [] := by
  intro empty
  rw [hasIdentifierShape, empty] at shape
  cases shape

/-- A text of this shape holds no delimiter. -/
theorem not_mem_of_shape
    {text : String}
    (shape : hasIdentifierShape text = true)
    {character : Char}
    (delimiter : character ∈ delimiters) :
    character ∉ text.toList := by
  intro member
  have inside := isIdentifierPart_of_mem_shape shape member
  rw [not_isIdentifierPart delimiter] at inside
  cases inside

/-- Identifiers are of this shape; the reserved words are left out besides. -/
theorem shape_of_isIdentifier
    {text : String}
    (identifier : isIdentifier text = true) :
    hasIdentifierShape text = true := by
  rw [isIdentifier, Bool.and_eq_true] at identifier
  exact identifier.1

end ContentSchema.Text
