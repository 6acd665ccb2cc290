import Mathlib
import ContentSchema.Proofs.ConstantNames
import ContentSchema.Proofs.StrayCharacters

/-!
# Constants that are no names

A constant is accepted as an identifier, and it is to name a binding of the module.  It
never is a reserved word, and strays are all that can be wrong with its characters: an
accepted constant is a name exactly when it has no stray.
-/

namespace ContentSchema

namespace Text

/-- A text has a character in a place in which no name has it. -/
def hasStray (text : String) : Bool :=
  match text.toList with
  | [] => false
  | first :: rest => isStrayStart first || rest.any isStrayPart

/-- An accepted shape is the one of names unless there is a stray in it. -/
theorem hasNameShape_iff_of_shape
    {text : String}
    (shape : hasIdentifierShape text = true) :
    hasNameShape text = true ↔ hasStray text = false := by
  unfold hasIdentifierShape at shape
  unfold hasNameShape hasStray
  cases characters : text.toList with
  | nil =>
      rw [characters] at shape
      cases shape
  | cons first rest =>
      rw [characters, Bool.and_eq_true, List.all_eq_true] at shape
      rcases shape with ⟨start, parts⟩
      have first_iff : isNameStart first = true ↔ isStrayStart first = false := by
        rw [Bool.eq_false_iff, ne_eq, isStrayStart_iff, not_and_not_right]
        exact ⟨fun name _ => name, fun name => name start⟩
      have rest_iff : ∀ character ∈ rest,
          (isNamePart character = true ↔ isStrayPart character = false) := by
        intro character member
        rw [Bool.eq_false_iff, ne_eq, isStrayPart_iff, not_and_not_right]
        exact ⟨fun name _ => name, fun name => name (parts character member)⟩
      rw [Bool.and_eq_true, Bool.or_eq_false_iff, List.all_eq_true, List.any_eq_false, first_iff]
      refine and_congr_right fun _ => forall₂_congr fun character member => ?_
      rw [rest_iff character member, Bool.not_eq_true]

theorem not_mem_keywords
    {text : String}
    (identifier : isIdentifier text = true) :
    text ∉ keywords := by
  have reserved : ∀ word ∈ keywords, isReservedWord word = true := by
    decide +kernel
  intro member
  rw [isIdentifier, reserved text member, Bool.not_true, Bool.and_false] at identifier
  cases identifier

/-- A text is no reserved word, and strays are all that can keep it from being a name. -/
structure IsNameUnlessStray (text : String) : Prop where
  unreserved : text ∉ keywords
  name_iff : IsBindingName text ↔ hasStray text = false

end Text

namespace Validity

open Text (IsBindingName IsNameUnlessStray hasStray isIdentifier)

/--
An accepted text is a name unless it has a stray, and is no reserved word in any case.  So
is every constant of a valid configuration.
-/
theorem names_unless_stray (text : String) :
    (isIdentifier text = true → IsNameUnlessStray text) ∧
      ∀ config, check config = .ok () → text ∈ config.constants → IsNameUnlessStray text := by
  have accepted : isIdentifier text = true → IsNameUnlessStray text := by
    intro identifier
    have free := Text.not_mem_keywords identifier
    have shaped := Text.hasNameShape_iff_of_shape (Text.shape_of_isIdentifier identifier)
    exact ⟨free, fun name => shaped.mp name.shaped, fun none => ⟨shaped.mpr none, free⟩⟩
  refine ⟨accepted, ?_⟩
  intro config valid member
  exact accepted ((constants_of_check valid).1 text member)

/-- Letters and digits of several scripts, a letter number and a dollar sign. -/
def calendarConfig : Config :=
  ⟨[⟨"été", "été", [], none⟩, ⟨"$Ⅻ", "twelve", [], none⟩], ["日本", "n٣", "a_b"]⟩

/-- All constants of the calendar are names, and a vowel sign in the first place is none. -/
theorem names_calendar :
    check calendarConfig = .ok () ∧
      (∀ constant ∈ calendarConfig.constants, IsBindingName constant) ∧
      isIdentifier "\u093e" = true ∧ ¬ IsBindingName "\u093e" := by
  have valid : check calendarConfig = .ok () := by
    decide +kernel
  have none : ∀ constant ∈ calendarConfig.constants, hasStray constant = false := by
    decide +kernel
  have sign : isIdentifier "\u093e" = true := by
    decide +kernel
  refine ⟨valid, ?_, sign, ?_⟩
  · intro constant member
    have name := (names_unless_stray constant).2 calendarConfig valid member
    exact name.name_iff.mpr (none constant member)
  · rw [((names_unless_stray "\u093e").1 sign).name_iff]
    decide +kernel

/-- A superscript is accepted in a constant, which then is no name. -/
theorem not_name_of_superscript :
    check ⟨[⟨"x²", "x", [], none⟩], []⟩ = .ok () ∧
      Config.constants ⟨[⟨"x²", "x", [], none⟩], []⟩ = ["x²"] ∧
      isIdentifier "x²" = true ∧ ¬ IsBindingName "x²" := by
  decide +kernel

end Validity

end ContentSchema
