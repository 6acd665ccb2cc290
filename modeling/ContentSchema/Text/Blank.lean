/-!
# Blank text

White space is the Unicode property White_Space: 25 characters in ten ranges.
A text is blank when it holds nothing else, so the empty text is blank.
-/

namespace ContentSchema.Text

/-- The characters with the property White_Space. -/
def isWhiteSpace (character : Char) : Bool :=
  let point := character.toNat
  (0x09 ≤ point && point ≤ 0x0D) || point == 0x20 || point == 0x85 || point == 0xA0
    || point == 0x1680 || (0x2000 ≤ point && point ≤ 0x200A) || point == 0x2028
    || point == 0x2029 || point == 0x202F || point == 0x205F || point == 0x3000

/-- A text is blank when all its characters are white space. -/
def isBlank (text : String) : Bool :=
  text.toList.all isWhiteSpace

@[simp]
theorem isBlank_empty : isBlank "" = true := by
  simp [isBlank]

end ContentSchema.Text
