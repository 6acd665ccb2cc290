import ContentSchema.Yaml.Cursor

/-!
# Gaps between words

Inside a scalar that may go over several lines, blanks within a line count as
they are, while a line break is folded: one break becomes a blank, and of several
breaks the first is dropped.  The two Unicode separators are never dropped.
-/

namespace ContentSchema.Yaml

/-- The blanks and breaks between two words of a scalar. -/
structure Gap where
  /-- A line has been broken. -/
  broken : Bool
  /-- The blanks, as long as no line is broken. -/
  blanks : List Char
  /-- The first break. -/
  firstBreak : List Char
  /-- All further breaks. -/
  furtherBreaks : List Char

namespace Gap

/-- Nothing between two words. -/
def none : Gap := ⟨false, [], [], []⟩

/-- A break that leaves no trace of its own. -/
def escapedBreak : Gap := ⟨true, [], [], []⟩

/-- What a gap counts for. -/
def fold (gap : Gap) : List Char :=
  if gap.broken then
    if gap.firstBreak == ['\n'] then
      if gap.furtherBreaks.isEmpty then [' '] else gap.furtherBreaks
    else gap.firstBreak ++ gap.furtherBreaks
  else gap.blanks

/-- Add a blank to a gap: blanks at the start of a line do not count. -/
def addBlank (gap : Gap) (blank : Char) : Gap :=
  if gap.broken then gap else { gap with blanks := gap.blanks ++ [blank] }

/-- Add a break to a gap. -/
def addBreak (gap : Gap) (lineBreak : List Char) : Gap :=
  if gap.broken then { gap with furtherBreaks := gap.furtherBreaks ++ lineBreak }
  else ⟨true, [], lineBreak, []⟩

/--
Read on in a gap, by at most so many characters.  In a line after the first, a
tab in front of the column where content may start is refused.
-/
def readWithin (firstColumn : Int) : Nat → Gap → Cursor → Option (Gap × Cursor)
  | 0, gap, cursor => some (gap, cursor)
  | steps + 1, gap, cursor =>
    match cursor.next? with
    | Option.none => some (gap, cursor)
    | some character =>
      if isBlank character then
        if gap.broken && character == '\t' && (cursor.column : Int) < firstColumn then Option.none
        else readWithin firstColumn steps (gap.addBlank character) (cursor.skip 1)
      else if isBreak character then
        let (lineBreak, after) := cursor.readBreak
        readWithin firstColumn steps (gap.addBreak lineBreak) after
      else some (gap, cursor)

/-- Read the rest of a gap. -/
def read (firstColumn : Int) (gap : Gap) (cursor : Cursor) : Option (Gap × Cursor) :=
  readWithin firstColumn cursor.remaining gap cursor

end Gap

end ContentSchema.Yaml
