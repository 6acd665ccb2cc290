/-!
# Reading along a YAML text

A cursor is the rest of a text together with the place where it starts: how many
octets come before it, in which line, and at which column.  Columns count
characters.  A cursor also knows how long the whole text is, so that what remains,
which bounds every loop along the text, need not be counted.  Five characters
break lines, of which a carriage return and a line feed together count as one
break.
-/

namespace ContentSchema.Yaml

/-- The characters that end a line. -/
def isBreak (character : Char) : Bool :=
  character == '\n' || character == '\r' || character == '\u0085' || character == '\u2028'
    || character == '\u2029'

/-- The characters that separate words within a line. -/
def isBlank (character : Char) : Bool :=
  character == ' ' || character == '\t'

/-- The characters of anchors, of handles of tags and of names of directives. -/
def isWordCharacter (character : Char) : Bool :=
  character.isAlphanum || character == '-' || character == '_'

/-- The characters that may stand in a text at all. -/
def isPrintable (character : Char) : Bool :=
  let point := character.toNat
  point == 0x09 || point == 0x0A || point == 0x0D || (0x20 ≤ point && point ≤ 0x7E)
    || point == 0x85 || (0xA0 ≤ point && point ≤ 0xD7FF) || (0xE000 ≤ point && point ≤ 0xFFFD)
    || 0x10000 ≤ point

/-- The number of octets that characters take up in UTF-8. -/
def octetCount (characters : List Char) : Nat :=
  characters.foldl (fun count character => count + character.utf8Size) 0

/-- A place in a text, with what follows it. -/
structure Cursor where
  rest : List Char
  /-- The number of octets of the whole text. -/
  size : Nat
  /-- The number of octets that come before. -/
  index : Nat
  line : Nat
  column : Nat

namespace Cursor

/-- The start of a text. -/
def start (text : List Char) : Cursor :=
  ⟨text, octetCount text, 0, 0, 0⟩

/-- The number of octets that remain, which is at least the number of characters. -/
def remaining (cursor : Cursor) : Nat :=
  cursor.size - cursor.index

/-- The next character. -/
def next? (cursor : Cursor) : Option Char :=
  cursor.rest.head?

/-- The character that comes so many characters after the next one. -/
def ahead? (cursor : Cursor) (distance : Nat) : Option Char :=
  cursor.rest[distance]?

/-- The next character is that one. -/
def isAt (cursor : Cursor) (character : Char) : Bool :=
  cursor.next? == some character

/-- The next character satisfies a condition. -/
def sees (cursor : Cursor) (condition : Char → Bool) : Bool :=
  cursor.next?.any condition

/-- A character further on satisfies a condition. -/
def seesAhead (cursor : Cursor) (distance : Nat) (condition : Char → Bool) : Bool :=
  (cursor.ahead? distance).any condition

/-- A word ends that far ahead: with a blank, a break, or the text. -/
def endsWordAhead (cursor : Cursor) (distance : Nat) : Bool :=
  match cursor.ahead? distance with
  | none => true
  | some character => isBlank character || isBreak character

/-- A line ends here: with a break or with the text. -/
def endsLine (cursor : Cursor) : Bool :=
  match cursor.next? with
  | none => true
  | some character => isBreak character

/-- Pass characters that break no line. -/
def skip (cursor : Cursor) (count : Nat) : Cursor :=
  { cursor with
    rest := cursor.rest.drop count
    index := cursor.index + octetCount (cursor.rest.take count)
    column := cursor.column + count }

/-- Pass the characters at the start that satisfy a condition, and give them. -/
def span (cursor : Cursor) (condition : Char → Bool) : List Char × Cursor :=
  let passed := cursor.rest.takeWhile condition
  (passed, cursor.skip passed.length)

/-- Pass the characters at the start that satisfy a condition. -/
def skipWhile (cursor : Cursor) (condition : Char → Bool) : Cursor :=
  (cursor.span condition).2

/-- Pass so many characters, of which the last one ends the line. -/
def skipLine (cursor : Cursor) (count : Nat) : Cursor :=
  { cursor.skip count with line := cursor.line + 1, column := 0 }

/-- Pass a break, and give it as it counts in a text: most breaks become a line feed. -/
def readBreak (cursor : Cursor) : List Char × Cursor :=
  match cursor.rest with
  | '\r' :: '\n' :: _ => (['\n'], cursor.skipLine 2)
  | character :: _ =>
    let kept := if character == '\u2028' || character == '\u2029' then character else '\n'
    ([kept], cursor.skipLine 1)
  | [] => ([], cursor)

/-- Pass a break. -/
def skipBreak (cursor : Cursor) : Cursor :=
  cursor.readBreak.2

/-- Pass a comment, if one starts here. -/
def skipComment (cursor : Cursor) : Cursor :=
  if cursor.isAt '#' then cursor.skipWhile fun character => !isBreak character else cursor

/-- Three characters alone at the start of a line separate documents. -/
def isAtMarker (cursor : Cursor) (character : Char) : Bool :=
  cursor.column == 0 && cursor.rest.take 3 == [character, character, character]
    && cursor.endsWordAhead 3

/-- A document starts or ends here. -/
def isAtDocumentMarker (cursor : Cursor) : Bool :=
  cursor.isAtMarker '-' || cursor.isAtMarker '.'

end Cursor

end ContentSchema.Yaml
