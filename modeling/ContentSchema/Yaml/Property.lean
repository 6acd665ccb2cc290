import ContentSchema.Text.Literal
import ContentSchema.Yaml.Cursor
import ContentSchema.Yaml.Token

/-!
# Anchors, tags and directives

An anchor names a node and an alias refers to it.  A tag says of what type a node
is; it is a URI in angle brackets, or a suffix with a handle that stands for the
start of a URI.  A directive at the start of a document gives the version of the
language or what a handle stands for.
-/

namespace ContentSchema.Yaml.Property

open Text (Literal.hexValue)

/-- The characters that may follow the name of an anchor at once. -/
def endsAnchor (character : Char) : Bool :=
  isBlank character || isBreak character || ['?', ':', ',', ']', '\x7d', '%', '@', '\x60'].contains character

/-- The name of an anchor or an alias, whose indicator comes next. -/
def readName (cursor : Cursor) : Option (String × Cursor) :=
  let (name, after) := (cursor.skip 1).span isWordCharacter
  if name.isEmpty || !(after.next?.all endsAnchor) then none
  else some (String.ofList name, after)

/-- The characters of a URI; three more may stand in it when it is set apart. -/
def isUriCharacter (setApart : Bool) (character : Char) : Bool :=
  isWordCharacter character
    || [';', '/', '?', ':', '@', '&', '=', '+', '$', '.', '%', '!', '~', '*', '\'', '(', ')'].contains
      character
    || (setApart && [',', '[', ']'].contains character)

/-- An octet that is written with two hexadecimal digits after a percent sign. -/
def readOctet (cursor : Cursor) : Option (Nat × Cursor) :=
  match cursor.rest with
  | '%' :: high :: low :: _ => do
    return ((← Literal.hexValue high) * 16 + (← Literal.hexValue low), cursor.skip 3)
  | _ => none

/-- The number of octets of a character, by the first of them. -/
def octetCount? (first : Nat) : Option Nat :=
  if first < 0x80 then some 1
  else if first / 0x20 == 0x06 then some 2
  else if first / 0x10 == 0x0E then some 3
  else if first / 0x08 == 0x1E then some 4
  else none

/-- Further octets of a character. -/
def readFurther : Nat → Cursor → Option (List UInt8 × Cursor)
  | 0, cursor => some ([], cursor)
  | count + 1, cursor => do
    let (octet, after) ← readOctet cursor
    if octet / 0x40 == 0x02 then
      let (octets, further) ← readFurther count after
      return (UInt8.ofNat octet :: octets, further)
    else none

/-- A character that is written by its octets; they need not be those of a character at all. -/
def readEscaped (cursor : Cursor) : Option (List UInt8 × Cursor) := do
  let (first, after) ← readOctet cursor
  let (octets, further) ← readFurther ((← octetCount? first) - 1) after
  return (UInt8.ofNat first :: octets, further)

/-- The octets of a URI, at most so many. -/
def readOctets (setApart : Bool) : Nat → Cursor → Option (List UInt8 × Cursor)
  | 0, cursor => some ([], cursor)
  | steps + 1, cursor =>
    match cursor.next? with
    | none => some ([], cursor)
    | some character =>
      if !isUriCharacter setApart character then some ([], cursor)
      else do
        let (read, after) ←
          if character == '%' then readEscaped cursor
          else some ([Uri.octetOf character], cursor.skip 1)
        let (octets, further) ← readOctets setApart steps after
        return (read ++ octets, further)

/-- A URI after what was read of it already. -/
def readRest (setApart : Bool) (lead : List Char) (cursor : Cursor) : Option (Uri × Cursor) := do
  let (octets, after) ← readOctets setApart cursor.remaining cursor
  return (.ofOctets (lead.map Uri.octetOf ++ octets), after)

/-- A URI, which has to have at least one character. -/
def readUri (setApart : Bool) (cursor : Cursor) : Option (Uri × Cursor) :=
  if cursor.sees (isUriCharacter setApart) then readRest setApart [] cursor else none

/-- What stands at the start of a tag: a handle, or the start of a suffix. -/
def readHandle (cursor : Cursor) : Option (List Char × Cursor) :=
  if !cursor.isAt '!' then none
  else
    let (name, after) := (cursor.skip 1).span isWordCharacter
    if after.isAt '!' then some ('!' :: name ++ ['!'], after.skip 1)
    else some ('!' :: name, after)

/-- A tag ends with its word; inside brackets a comma may follow it at once. -/
def endsTag (inFlow : Bool) (cursor : Cursor) : Bool :=
  (inFlow && cursor.isAt ',') || cursor.endsWordAhead 0

/-- A tag in angle brackets. -/
def readVerbatim (cursor : Cursor) : Option (Token × Cursor) := do
  let (uri, after) ← readUri true (cursor.skip 2)
  if after.isAt '>' then return (.tag "" uri, after.skip 1) else none

/-- A tag with or without a handle; a lone exclamation mark is a tag of its own. -/
def readShorthand (cursor : Cursor) : Option (Token × Cursor) := do
  let (handle, after) ← readHandle cursor
  if handle.length > 1 && handle.getLast? == some '!' then
    let (suffix, further) ← readUri false after
    return (.tag (String.ofList handle) suffix, further)
  else
    let (suffix, further) ← readRest false (handle.drop 1) after
    if suffix.isEmpty then return (.tag "" (.ofAscii "!"), further)
    else return (.tag "!" suffix, further)

/-- A tag, whose indicator comes next. -/
def readTag (inFlow : Bool) (cursor : Cursor) : Option (Token × Cursor) := do
  let (tag, after) ←
    if cursor.ahead? 1 == some '<' then readVerbatim cursor else readShorthand cursor
  if endsTag inFlow after then return (tag, after) else none

/-- A number of a version, of at most nine digits. -/
def readVersionNumber (cursor : Cursor) : Option (Nat × Cursor) :=
  let (digits, after) := cursor.span Char.isDigit
  if digits.isEmpty || digits.length > 9 then none
  else some (digits.foldl (fun value digit => value * 10 + (digit.toNat - 0x30)) 0, after)

/-- The version of the language. -/
def readVersion (cursor : Cursor) : Option (Token × Cursor) := do
  let (major, after) ← readVersionNumber (cursor.skipWhile isBlank)
  if after.isAt '.' then
    let (minor, further) ← readVersionNumber (after.skip 1)
    return (.version major minor, further)
  else none

/-- A handle with what it stands for. -/
def readTagHandle (cursor : Cursor) : Option (Token × Cursor) := do
  let (handle, after) ← readHandle (cursor.skipWhile isBlank)
  if handle.length > 1 && handle.getLast? != some '!' then none
  else if !after.sees isBlank then none
  else
    let (expansion, further) ← readUri true (after.skipWhile isBlank)
    if further.endsWordAhead 0 then
      return (.tagHandle (String.ofList handle) expansion, further)
    else none

/-- A directive, whose indicator comes next, to the end of its line. -/
def readDirective (cursor : Cursor) : Option (Token × Cursor) := do
  let (name, after) := (cursor.skip 1).span isWordCharacter
  if !after.endsWordAhead 0 then none
  else
    let (token, further) ←
      if name == ['Y', 'A', 'M', 'L'] then readVersion after
      else if name == ['T', 'A', 'G'] then readTagHandle after
      else none
    let lineEnd := (further.skipWhile isBlank).skipComment
    if lineEnd.endsLine then return (token, lineEnd.skipBreak) else none

end ContentSchema.Yaml.Property
