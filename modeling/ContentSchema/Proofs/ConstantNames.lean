import Mathlib
import ContentSchema.Proofs.IdentifierShape
import ContentSchema.Validity

/-!
# The constants of a valid configuration

Validity of the constants as a property of the whole list: every constant is an
identifier, none is taken beforehand, and no two are equal.
-/

namespace ContentSchema.Validity

/--
The check of the constants, with those that were seen before: they are identifiers, new,
and no two are the same.
-/
theorem checkConstants_eq_ok_iff
    {taken constants : List String} :
    checkConstants taken constants = .ok () ↔
      (∀ constant ∈ constants, Text.isIdentifier constant = true) ∧
        (∀ constant ∈ constants, constant ∉ taken) ∧ constants.Nodup := by
  induction constants generalizing taken with
  | nil =>
      simp [checkConstants]
  | cons constant rest ih =>
      rw [checkConstants]
      split
      · rename_i refused
        simp only [Bool.not_eq_true'] at refused
        simp [refused]
      · rename_i accepted
        simp only [Bool.not_eq_true', Bool.not_eq_false] at accepted
        split
        · rename_i present
          have member : constant ∈ taken := by simpa using present
          simp [member]
        · rename_i absent
          have fresh : constant ∉ taken := by simpa using absent
          rw [ih]
          simp only [List.forall_mem_cons, List.nodup_cons]
          constructor
          · rintro ⟨identifiers, free, distinct⟩
            have apart : ∀ other ∈ rest, other ≠ constant ∧ other ∉ taken := by
              intro other member
              exact List.ne_and_not_mem_of_not_mem_cons (free other member)
            refine ⟨⟨accepted, identifiers⟩, ⟨fresh, ?_⟩, ?_, distinct⟩
            · intro other member
              exact (apart other member).2
            · intro again
              exact (apart constant again).1 rfl
          · rintro ⟨⟨_, identifiers⟩, ⟨_, free⟩, once, distinct⟩
            refine ⟨identifiers, ?_, distinct⟩
            intro other member
            exact List.not_mem_cons_of_ne_of_not_mem
              (ne_of_mem_of_not_mem member once) (free other member)

/-- What validity says of the constants of a configuration. -/
theorem constants_of_check
    {config : Config}
    (valid : check config = .ok ()) :
    (∀ constant ∈ config.constants, Text.isIdentifier constant = true) ∧
      (∀ constant ∈ config.constants, constant ∉ Module.reservedBindings) ∧
        config.constants.Nodup := by
  unfold check at valid
  split at valid
  · cases valid
  · rename_i accepted
    exact checkConstants_eq_ok_iff.mp accepted

/-- The constants of a valid configuration have the shape of identifiers. -/
theorem shape_of_check
    {config : Config}
    (valid : check config = .ok ())
    {constant : String}
    (member : constant ∈ config.constants) :
    Text.hasIdentifierShape constant = true := by
  rcases constants_of_check valid with ⟨identifiers, _, _⟩
  exact Text.shape_of_isIdentifier (identifiers constant member)

end ContentSchema.Validity
