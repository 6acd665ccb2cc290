import ContentSchema.Text.Literal
import ContentSchema.Yaml.Gap

/-!
# Quoted scalars

Between single quotes only the quote itself is special: it is written twice.
Between double quotes a backslash starts an escape, which may also be the end of a
line.  Both may go over several lines, but not past the start or the end of a
document.
-/

namespace ContentSchema.Yaml.Quoted

open Text (Literal.hexValue)

/-- The character that a letter after a backslash stands for. -/
def ofLetter? (letter : Char) : Option Char :=
  [ ('0', '\x00'), ('a', '\x07'), ('b', '\x08'), ('t', '\t'), ('\t', '\t'), ('n', '\n'),
    ('v', '\x0b'), ('f', '\x0c'), ('r', '\r'), ('e', '\x1b'), (' ', ' '), ('"', '"'),
    ('/', '/'), ('\\', '\\'), ('N', '\u0085'), ('_', '\u00a0'), ('L', '\u2028'),
    ('P', '\u2029') ].lookup letter

/-- The number of digits that a letter after a backslash asks for. -/
def digitCount? (letter : Char) : Option Nat :=
  [('x', 2), ('u', 4), ('U', 8)].lookup letter

/-- The number that hexadecimal digits write. -/
def hexNumber (digits : List Char) : Option Nat :=
  digits.foldlM
    (fun value digit => (Literal.hexValue digit).map fun unit => value * 16 + unit) 0

/-- A number that is a character. -/
def character? (value : Nat) : Option Char :=
  if value.isValidChar then some (Char.ofNat value) else none

/-- The character of an escape, whose backslash comes next. -/
def readEscape (cursor : Cursor) : Option (Char × Cursor) := do
  let letter ← cursor.ahead? 1
  match digitCount? letter with
  | none => return (← ofLetter? letter, cursor.skip 2)
  | some count =>
    let digits := (cursor.rest.drop 2).take count
    if digits.length < count then none
    else return (← character? (← hexNumber digits), cursor.skip (2 + count))

/-- A word between quotes; it may end with an escaped break, which starts the gap after it. -/
def readWord (quote : Char) : Nat → Cursor → Option (List Char × Gap × Cursor)
  | 0, cursor => some ([], Gap.none, cursor)
  | steps + 1, cursor =>
    let continued (read : Char) (after : Cursor) : Option (List Char × Gap × Cursor) :=
      match readWord quote steps after with
      | none => none
      | some (word, gap, further) => some (read :: word, gap, further)
    match cursor.next? with
    | none => some ([], Gap.none, cursor)
    | some character =>
      if isBlank character || isBreak character then some ([], Gap.none, cursor)
      else if character == quote then
        if quote == '\'' && cursor.ahead? 1 == some '\'' then continued '\'' (cursor.skip 2)
        else some ([], Gap.none, cursor)
      else if quote == '"' && character == '\\' then
        if cursor.seesAhead 1 isBreak then
          some ([], Gap.escapedBreak, (cursor.skip 1).skipBreak)
        else
          match readEscape cursor with
          | none => none
          | some (escaped, after) => continued escaped after
      else continued character (cursor.skip 1)

/-- Read words and the gaps between them up to the closing quote, at most so many. -/
def readWithin (quote : Char) : Nat → Cursor → Option (List Char × Cursor)
  | 0, _ => none
  | steps + 1, cursor =>
    if cursor.isAtDocumentMarker || cursor.rest.isEmpty then none
    else
      match readWord quote cursor.remaining cursor with
      | none => none
      | some (word, gap, after) =>
        if after.isAt quote then some (word, after.skip 1)
        else
          match gap.read 0 after with
          | none => none
          | some (further, start) =>
            (readWithin quote steps start).map fun (text, ended) =>
              (word ++ further.fold ++ text, ended)

/-- Read a quoted scalar, whose opening quote comes next. -/
def read (quote : Char) (cursor : Cursor) : Option (List Char × Cursor) :=
  readWithin quote (cursor.remaining + 1) (cursor.skip 1)

end ContentSchema.Yaml.Quoted
