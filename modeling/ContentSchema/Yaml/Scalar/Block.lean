import ContentSchema.Yaml.Cursor

/-!
# Block scalars

A block scalar is a run of lines that are indented at least as far as its first
line, or as far as its header says.  A literal one keeps its line breaks; a folded
one turns a break between two lines of words into a blank.  The header also says
what becomes of the breaks at the end: by default one is kept.
-/

namespace ContentSchema.Yaml.Block

/-- What becomes of the breaks at the end. -/
inductive Chomping where
  | strip
  | clip
  | keep
  deriving DecidableEq

/-- What stands in the first line of a block scalar. -/
structure Header where
  chomping : Chomping
  /-- How much further than the node around it the scalar is indented. -/
  increment : Option Nat

/-- What becomes of the breaks at the end, by its sign. -/
def chomping? (character : Char) : Option Chomping :=
  if character == '+' then some .keep
  else if character == '-' then some .strip
  else none

/-- The sign of a chomping, if one stands here. -/
def readChomping (cursor : Cursor) : Option Chomping × Cursor :=
  match cursor.next?.bind chomping? with
  | none => (none, cursor)
  | some chomping => (some chomping, cursor.skip 1)

/-- A digit of an increment, if one stands here; a nought is refused. -/
def readIncrement (cursor : Cursor) : Option (Option Nat × Cursor) :=
  match cursor.next? with
  | none => some (none, cursor)
  | some character =>
    if character == '0' then none
    else if character.isDigit then some (some (character.toNat - 0x30), cursor.skip 1)
    else some (none, cursor)

/-- The two signs of a header, in either order. -/
def readSigns (cursor : Cursor) : Option (Header × Cursor) :=
  match readChomping cursor with
  | (some chomping, after) =>
    (readIncrement after).map fun (increment, further) => (⟨chomping, increment⟩, further)
  | (none, _) =>
    (readIncrement cursor).map fun (increment, after) =>
      if increment.isNone then (⟨.clip, none⟩, after)
      else
        let (chomping, further) := readChomping after
        (⟨chomping.getD .clip, increment⟩, further)

/-- The header of a block scalar to the end of its line. -/
def readHeader (cursor : Cursor) : Option (Header × Cursor) :=
  match readSigns cursor with
  | none => none
  | some (header, after) =>
    let lineEnd := (after.skipWhile isBlank).skipComment
    if lineEnd.endsLine then some (header, lineEnd.skipBreak) else none

/-- Empty lines, with the greatest column that was reached in them. -/
structure EmptyLines where
  breaks : List Char
  greatestColumn : Nat
  cursor : Cursor

/--
Read empty lines and the blanks in front of the line after them, at most so many.
The blanks end at the indentation, if it is known.  A tab among them is refused.
-/
def readEmptyWithin (indent : Option Nat) : Nat → Nat → Cursor → Option EmptyLines
  | 0, greatest, cursor => some ⟨[], greatest, cursor⟩
  | steps + 1, greatest, cursor =>
    let blanks := cursor.rest.takeWhile (· == ' ')
    let passed :=
      match indent with
      | none => blanks.length
      | some column => min blanks.length (column - cursor.column)
    let start := cursor.skip passed
    let reached := max greatest start.column
    if indent.all (fun column => decide (start.column < column)) && start.isAt '\t' then none
    else if start.sees isBreak then
      let (lineBreak, after) := start.readBreak
      (readEmptyWithin indent steps reached after).map fun lines =>
        { lines with breaks := lineBreak ++ lines.breaks }
    else some ⟨[], reached, start⟩

/-- Read all empty lines. -/
def readEmpty (indent : Option Nat) (cursor : Cursor) : Option EmptyLines :=
  readEmptyWithin indent (cursor.remaining + 1) 0 cursor

/-- What stands between two lines of content, or between the last one and the end. -/
structure Seam where
  /-- The break after the line of content. -/
  lineBreak : List Char
  /-- The breaks of the empty lines after it. -/
  emptyBreaks : List Char
  /-- The line of content starts with a blank. -/
  startsBlank : Bool

/-- What a seam counts for before another line of content: folded between lines of words. -/
def Seam.fold (seam : Seam) (folded startsBlank : Bool) : List Char :=
  if folded && seam.lineBreak == ['\n'] && !seam.startsBlank && !startsBlank then
    if seam.emptyBreaks.isEmpty then [' '] else seam.emptyBreaks
  else seam.lineBreak ++ seam.emptyBreaks

/-- What a seam counts for at the end. -/
def Seam.chomp (seam : Seam) : Chomping → List Char
  | .strip => []
  | .clip => seam.lineBreak
  | .keep => seam.lineBreak ++ seam.emptyBreaks

/-- Read lines of content, each after a seam, to the end of the scalar, at most so many. -/
def readLines (folded : Bool) (chomping : Chomping) (indent : Nat) :
    Nat → Seam → Cursor → Option (List Char × Cursor)
  | 0, seam, cursor => some (seam.chomp chomping, cursor)
  | steps + 1, seam, cursor =>
    if cursor.column != indent || cursor.rest.isEmpty then some (seam.chomp chomping, cursor)
    else
      let startsBlank := cursor.sees isBlank
      let (line, lineEnd) := cursor.span fun character => !isBreak character
      let (lineBreak, after) := lineEnd.readBreak
      match readEmpty (some indent) after with
      | none => none
      | some lines =>
        (readLines folded chomping indent steps ⟨lineBreak, lines.breaks, startsBlank⟩
          lines.cursor).map fun (text, ended) =>
            (seam.fold folded startsBlank ++ line ++ text, ended)

/--
Read a block scalar, whose indicator comes next, inside a node with an
indentation.  Without an increment the indentation is that of the first line that
is not empty, but not less than that of the empty lines or of a nested node.
-/
def read (folded : Bool) (parentIndent : Int) (cursor : Cursor) :
    Option (List Char × Cursor) := do
  let (header, start) ← readHeader (cursor.skip 1)
  let known := header.increment.map fun increment => (max parentIndent 0).toNat + increment
  let lines ← readEmpty known start
  let indent := known.getD (max lines.greatestColumn (max (parentIndent + 1).toNat 1))
  readLines folded header.chomping indent (lines.cursor.remaining + 1)
    ⟨[], lines.breaks, false⟩ lines.cursor

end ContentSchema.Yaml.Block
