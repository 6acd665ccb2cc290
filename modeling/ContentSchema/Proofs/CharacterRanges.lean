import Mathlib
import ContentSchema.Text.Ranges

/-!
# Character classes compared by their ranges

Two classes that are given as ranges of code points are compared without a look at
single characters.  What a table leaves of another one is computed range by range, and
whatever lies in the other one lies in the table or in what is left.  So a class is
covered by others once they leave nothing of it.

Classes have no character in common when the gaps of one of them cover the other one.
The gaps are those of a table in increasing order.
-/

namespace ContentSchema.Text

@[simp]
theorem inRanges_nil (character : Char) : inRanges [] character = false :=
  rfl

theorem inRanges_cons_iff
    (range : Nat × Nat) (rest : List (Nat × Nat)) (character : Char) :
    inRanges (range :: rest) character = true ↔
      (range.1 ≤ character.toNat ∧ character.toNat ≤ range.2) ∨
        inRanges rest character = true := by
  simp only [inRanges_iff, List.exists_mem_cons_iff]

theorem inRanges_append_iff
    (first second : List (Nat × Nat)) (character : Char) :
    inRanges (first ++ second) character = true ↔
      inRanges first character = true ∨ inRanges second character = true := by
  simp only [inRanges, List.any_append, Bool.or_eq_true]

/-! ## What is left of a table -/

/-- The part of a table that lies before a range, and the part behind it. -/
def cut (range : Nat × Nat) : List (Nat × Nat) → List (Nat × Nat) × List (Nat × Nat)
  | [] => ([], [])
  | next :: rest =>
    if range.2 < next.1 then ([], next :: rest)
    else
      let before := if next.1 < range.1 then [(next.1, min next.2 (range.1 - 1))] else []
      if range.2 < next.2 then (before, (range.2 + 1, next.2) :: rest)
      else
        let parts := cut range rest
        (before ++ parts.1, parts.2)

/-- What another table leaves of a table, when both are in increasing order. -/
def without (ranges : List (Nat × Nat)) : List (Nat × Nat) → List (Nat × Nat)
  | [] => ranges
  | range :: other =>
    let parts := cut range ranges
    parts.1 ++ without parts.2 other

theorem inRanges_of_cut
    {range : Nat × Nat} {ranges : List (Nat × Nat)} {character : Char}
    (inside : inRanges ranges character = true)
    (outside : ¬ (range.1 ≤ character.toNat ∧ character.toNat ≤ range.2)) :
    inRanges (cut range ranges).1 character = true ∨
      inRanges (cut range ranges).2 character = true := by
  induction ranges with
  | nil =>
      exact absurd inside (by simp)
  | cons next rest ih =>
      rw [inRanges_cons_iff] at inside
      rw [cut]
      have before : next.1 ≤ character.toNat → character.toNat ≤ next.2 →
          character.toNat ≤ range.2 →
            inRanges (if next.1 < range.1 then [(next.1, min next.2 (range.1 - 1))] else [])
              character = true := by
        intro low high bounded
        have less : character.toNat < range.1 := by omega
        rw [if_pos (by omega), inRanges_cons_iff]
        exact .inl ⟨low, by simp only [le_min_iff]; omega⟩
      split
      · exact .inr ((inRanges_cons_iff _ _ _).mpr inside)
      · dsimp only
        split
        · rcases inside with ⟨low, high⟩ | later
          · by_cases bounded : character.toNat ≤ range.2
            · exact .inl (before low high bounded)
            · exact .inr ((inRanges_cons_iff _ _ _).mpr (.inl ⟨by omega, high⟩))
          · exact .inr ((inRanges_cons_iff _ _ _).mpr (.inr later))
        · rw [inRanges_append_iff]
          rcases inside with ⟨low, high⟩ | later
          · exact .inl (.inl (before low high (by omega)))
          · rcases ih later with front | back
            · exact .inl (.inr front)
            · exact .inr back

/-- A character of a table is in the other table or in what that one leaves. -/
theorem inRanges_without
    {ranges other : List (Nat × Nat)} {character : Char}
    (inside : inRanges ranges character = true) :
    inRanges other character = true ∨ inRanges (without ranges other) character = true := by
  induction other generalizing ranges with
  | nil =>
      exact .inr inside
  | cons range other ih =>
      rw [without, inRanges_append_iff, inRanges_cons_iff]
      by_cases within : range.1 ≤ character.toNat ∧ character.toNat ≤ range.2
      · exact .inl (.inl within)
      · rcases inRanges_of_cut inside within with front | back
        · exact .inr (.inl front)
        · rcases ih back with later | left
          · exact .inl (.inr later)
          · exact .inr (.inr left)

theorem inRanges_without_of_not
    {ranges other : List (Nat × Nat)} {character : Char}
    (inside : inRanges ranges character = true)
    (outside : inRanges other character = false) :
    inRanges (without ranges other) character = true := by
  rcases inRanges_without inside with impossible | left
  · rw [outside] at impossible
    cases impossible
  · exact left

/-- A table of which another one leaves nothing is contained in that one. -/
theorem inRanges_of_subset
    {ranges other : List (Nat × Nat)}
    (nothing : without ranges other = [])
    {character : Char}
    (inside : inRanges ranges character = true) :
    inRanges other character = true := by
  rcases inRanges_without inside with there | left
  · exact there
  · rw [nothing] at left
    cases left

/-- A table of which others leave nothing is covered by them. -/
theorem inRanges_of_covered
    {ranges : List (Nat × Nat)} {others : List (List (Nat × Nat))}
    (covered : others.foldl without ranges = [])
    {character : Char}
    (inside : inRanges ranges character = true) :
    ∃ other ∈ others, inRanges other character = true := by
  induction others generalizing ranges with
  | nil =>
      rw [List.foldl_nil] at covered
      rw [covered] at inside
      cases inside
  | cons other others ih =>
      rw [List.exists_mem_cons_iff]
      rcases inRanges_without inside with here | left
      · exact .inl here
      · exact .inr (ih covered left)

/-! ## The gaps of a table -/

/-- A table is in increasing order from a code point on. -/
def Ascends : Nat → List (Nat × Nat) → Prop
  | _, [] => True
  | start, range :: rest => start ≤ range.1 ∧ range.1 ≤ range.2 ∧ Ascends (range.2 + 1) rest

/-- The order of a table is decided along the table, one range after the other. -/
instance decidableAscends : (start : Nat) → (ranges : List (Nat × Nat)) →
    Decidable (Ascends start ranges)
  | _, [] => .isTrue trivial
  | start, range :: rest =>
    have := decidableAscends (range.2 + 1) rest
    inferInstanceAs (Decidable (start ≤ range.1 ∧ range.1 ≤ range.2 ∧ Ascends (range.2 + 1) rest))

/-- The ranges between those of a table, from a code point on. -/
def gaps : Nat → List (Nat × Nat) → List (Nat × Nat)
  | start, [] => [(start, 0x10FFFF)]
  | start, range :: rest =>
    if start < range.1 then (start, range.1 - 1) :: gaps (range.2 + 1) rest
    else gaps (range.2 + 1) rest

theorem le_of_inRanges
    {start : Nat} {ranges : List (Nat × Nat)} {character : Char}
    (ascends : Ascends start ranges)
    (inside : inRanges ranges character = true) :
    start ≤ character.toNat := by
  induction ranges generalizing start with
  | nil =>
      cases inside
  | cons range rest ih =>
      rcases ascends with ⟨first, ordered, behind⟩
      rcases (inRanges_cons_iff _ _ _).mp inside with ⟨low, _⟩ | later
      · omega
      · have := ih behind later
        omega

/-- What lies in a gap is in no range. -/
theorem not_inRanges_of_gaps
    {start : Nat} {ranges : List (Nat × Nat)} {character : Char}
    (ascends : Ascends start ranges)
    (between : inRanges (gaps start ranges) character = true) :
    start ≤ character.toNat ∧ inRanges ranges character = false := by
  induction ranges generalizing start with
  | nil =>
      rw [gaps, inRanges_cons_iff] at between
      rcases between with ⟨low, _⟩ | impossible
      · exact ⟨low, rfl⟩
      · cases impossible
  | cons range rest ih =>
      rcases ascends with ⟨first, ordered, behind⟩
      have later : inRanges (gaps (range.2 + 1) rest) character = true →
          start ≤ character.toNat ∧ inRanges (range :: rest) character = false := by
        intro between
        rcases ih behind between with ⟨low, outside⟩
        refine ⟨by omega, ?_⟩
        rw [Bool.eq_false_iff, ne_eq, inRanges_cons_iff, outside]
        rintro (⟨_, high⟩ | impossible)
        · omega
        · cases impossible
      rw [gaps] at between
      split at between
      · rcases (inRanges_cons_iff _ _ _).mp between with ⟨low, high⟩ | between
        · refine ⟨low, ?_⟩
          rw [Bool.eq_false_iff, ne_eq, inRanges_cons_iff]
          rintro (⟨reached, _⟩ | inside)
          · omega
          · have := le_of_inRanges behind inside
            omega
        · exact later between
      · exact later between

/-- Tables are apart when the gaps of one cover the other. -/
theorem not_inRanges_of_apart
    {ranges other : List (Nat × Nat)}
    (ascends : Ascends 0 other)
    (apart : without ranges (gaps 0 other) = [])
    {character : Char}
    (inside : inRanges ranges character = true) :
    inRanges other character = false := by
  exact (not_inRanges_of_gaps ascends (inRanges_of_subset apart inside)).2

end ContentSchema.Text
