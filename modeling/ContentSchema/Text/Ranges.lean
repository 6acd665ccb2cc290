/-!
# Ranges of code points

A character class of a standard is given as a list of inclusive ranges of code
points.  Membership is a search through that list.
-/

namespace ContentSchema.Text

/-- A character belongs to a class when some range holds its code point. -/
def inRanges (ranges : List (Nat × Nat)) (character : Char) : Bool :=
  ranges.any fun range =>
    decide (range.1 ≤ character.toNat) && decide (character.toNat ≤ range.2)

theorem inRanges_iff
    (ranges : List (Nat × Nat)) (character : Char) :
    inRanges ranges character = true ↔
      ∃ range ∈ ranges,
        range.1 ≤ character.toNat ∧ character.toNat ≤ range.2 := by
  simp [inRanges, List.any_eq_true]

end ContentSchema.Text
