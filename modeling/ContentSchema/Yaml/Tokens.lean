import ContentSchema.Yaml.Property
import ContentSchema.Yaml.Scalar.Block
import ContentSchema.Yaml.Scalar.Plain
import ContentSchema.Yaml.Scalar.Quoted

/-!
# Cutting YAML text into tokens

Two things make this more than cutting.  Indentation opens and closes block
collections: the columns of those that are open form a stack.  And a key is known
as such only when the colon after it is met: wherever a key may start, an empty
place is left among the tokens, which is filled when the colon comes.  A key that
was left open ends with its line or after 1024 octets; where the indentation leaves no
other choice than a key, the colon has to come.
-/

namespace ContentSchema.Yaml

/-- Something that was read and may turn out to be a key. -/
structure PendingKey where
  /-- The indentation leaves no other choice. -/
  required : Bool
  /-- The place among the tokens that is left for it. -/
  slot : Nat
  index : Nat
  line : Nat
  column : Nat

/-- A text that is cut into tokens up to some place. -/
structure Scan where
  cursor : Cursor
  /-- The column of the innermost open block collection; below nought outside all of them. -/
  indent : Int
  /-- The columns of the block collections around it. -/
  outerIndents : List Int
  /-- The pending key outside all brackets and inside each, the innermost first. -/
  pending : List (Option PendingKey)
  /-- A key may start here. -/
  keyAllowed : Bool
  /-- The tokens so far, in places that hold any number of them. -/
  slots : Array (List Token)

namespace Scan

/-- The start of a text. -/
def start (text : List Char) : Scan :=
  ⟨Cursor.start text, -1, [], [none], true, #[]⟩

/-- The place is inside brackets. -/
def inFlow (scan : Scan) : Bool :=
  match scan.pending with
  | _ :: _ :: _ => true
  | _ => false

/-- Add a token. -/
def push (scan : Scan) (token : Token) : Scan :=
  { scan with slots := scan.slots.push [token] }

/-- Add a token and pass the text that it takes up. -/
def take (scan : Scan) (token : Token) (after : Cursor) : Scan :=
  { scan.push token with cursor := after }

/-- Say whether a key may start here. -/
def allowKey (scan : Scan) (allowed : Bool) : Scan :=
  { scan with keyAllowed := allowed }

/--
Pass what means nothing: blanks, comments and line breaks, at most so many.  A line
may also start with a byte order mark.
-/
def toTokenWithin : Nat → Scan → Scan
  | 0, scan => scan
  | steps + 1, scan =>
    let byteOrderMark := scan.cursor.column == 0 && scan.cursor.isAt '\ufeff'
    let begun := if byteOrderMark then scan.cursor.skip 1 else scan.cursor
    let tabsCount := scan.inFlow || !scan.keyAllowed
    let passed := begun.skipWhile fun character =>
      character == ' ' || (tabsCount && character == '\t')
    let lineEnd := passed.skipComment
    if lineEnd.sees isBreak then
      toTokenWithin steps
        { scan with cursor := lineEnd.skipBreak, keyAllowed := scan.keyAllowed || !scan.inFlow }
    else { scan with cursor := lineEnd }

/-- Pass what means nothing. -/
def toToken (scan : Scan) : Scan :=
  toTokenWithin (scan.cursor.remaining + 1) scan

/-- A pending key is too far behind to be one still. -/
def isStale (cursor : Cursor) (key : PendingKey) : Bool :=
  key.line < cursor.line || key.index + 1024 < cursor.index

/-- The pending key at this place, unless it is too far behind; a required one must not be. -/
def currentKey (scan : Scan) : Option (Option PendingKey) :=
  match scan.pending with
  | some key :: _ =>
    if isStale scan.cursor key then (if key.required then none else some none)
    else some (some key)
  | _ => some none

/-- Close the block collections that are indented further than a column. -/
def closeBlocks (column : Int) : List Int → Scan → Scan
  | [], scan => scan
  | outer :: rest, scan =>
    if scan.indent > column then
      closeBlocks column rest
        { scan.push .blockEnd with indent := outer, outerIndents := rest }
    else scan

/-- Close the block collections that end before a column. -/
def unroll (scan : Scan) (column : Int) : Scan :=
  if scan.inFlow then scan else closeBlocks column scan.outerIndents scan

/-- A block collection that would start at a column is new. -/
def opensBlock (scan : Scan) (column : Nat) : Bool :=
  !scan.inFlow && scan.indent < (column : Int)

/-- Go into a block collection that starts at a column. -/
def indentTo (scan : Scan) (column : Nat) : Scan :=
  { scan with indent := column, outerIndents := scan.indent :: scan.outerIndents }

/-- Open a block collection here, if one is to be opened. -/
def roll (scan : Scan) (opening : Token) : Scan :=
  if scan.opensBlock scan.cursor.column then
    (scan.indentTo scan.cursor.column).push opening
  else scan

/-- Give up the pending key at this place, unless it is required. -/
def removeKey (scan : Scan) : Option Scan :=
  match scan.pending with
  | some key :: outer =>
    if key.required then none else some { scan with pending := none :: outer }
  | _ => some scan

/-- Note that a key may start here, if one may. -/
def saveKey (scan : Scan) : Option Scan :=
  if !scan.keyAllowed then some scan
  else
    (scan.removeKey).map fun cleared =>
      let cursor := cleared.cursor
      let key : PendingKey :=
        ⟨!cleared.inFlow && cleared.indent == (cursor.column : Int), cleared.slots.size,
          cursor.index, cursor.line, cursor.column⟩
      { cleared with
        pending := some key :: cleared.pending.tail
        slots := cleared.slots.push [] }

/-- The end of all block collections, where no key may be open. -/
def endBlocks (scan : Scan) : Option Scan :=
  (scan.unroll (-1)).removeKey.map fun ended => ended.allowKey false

/-- The end of the text counts as the start of a line. -/
def finish (scan : Scan) : Option Scan :=
  scan.endBlocks

/-- A directive. -/
def directive (scan : Scan) : Option Scan := do
  let ended ← scan.endBlocks
  let (token, after) ← Property.readDirective ended.cursor
  return ended.take token after

/-- A mark between documents. -/
def documentMarker (scan : Scan) (token : Token) : Option Scan := do
  let ended ← scan.endBlocks
  return ended.take token (ended.cursor.skip 3)

/-- An opening bracket. -/
def openFlow (scan : Scan) (token : Token) : Option Scan := do
  let saved ← scan.saveKey
  return { (saved.take token (saved.cursor.skip 1)).allowKey true with
    pending := none :: saved.pending }

/-- A closing bracket. -/
def closeFlow (scan : Scan) (token : Token) : Option Scan := do
  let cleared ← scan.removeKey
  let outer := if cleared.inFlow then cleared.pending.tail else cleared.pending
  return { (cleared.take token (cleared.cursor.skip 1)).allowKey false with pending := outer }

/-- A comma inside brackets. -/
def flowEntry (scan : Scan) : Option Scan := do
  let cleared ← scan.removeKey
  return (cleared.take .flowEntry (cleared.cursor.skip 1)).allowKey true

/-- An entry or a key may stand here, and the block collection for it is open. -/
def requireBlock (scan : Scan) (opening : Token) : Option Scan :=
  if scan.inFlow then some scan
  else if scan.keyAllowed then some (scan.roll opening)
  else none

/-- A dash before an entry. -/
def blockEntry (scan : Scan) : Option Scan := do
  let opened ← scan.requireBlock .blockSequenceStart
  let cleared ← opened.removeKey
  return (cleared.take .blockEntry (cleared.cursor.skip 1)).allowKey true

/-- A question mark before a key. -/
def explicitKey (scan : Scan) : Option Scan := do
  let opened ← scan.requireBlock .blockMappingStart
  let cleared ← opened.removeKey
  let ready := cleared.allowKey (!cleared.inFlow)
  return ready.take .key (ready.cursor.skip 1)

/-- A colon after a key that is pending: its place is filled. -/
def confirmKey (scan : Scan) (key : PendingKey) : Scan :=
  let opens := scan.opensBlock key.column
  let tokens := if opens then [.blockMappingStart, .key] else [.key]
  let opened := if opens then scan.indentTo key.column else scan
  { opened with
    slots := opened.slots.modify key.slot fun _ => tokens
    pending := none :: opened.pending.tail
    keyAllowed := false }

/-- A colon before a value. -/
def value (scan : Scan) : Option Scan := do
  let ready ←
    match ← scan.currentKey with
    | some key => some (scan.confirmKey key)
    | none =>
      (scan.requireBlock .blockMappingStart).map fun opened => opened.allowKey (!opened.inFlow)
  return ready.take .value (ready.cursor.skip 1)

/-- Something that may be a key or belong to one, by a reader of tokens. -/
def nodePart (scan : Scan) (read : Cursor → Option (Token × Cursor)) : Option Scan := do
  let saved ← scan.saveKey
  let (token, after) ← read saved.cursor
  return (saved.take token after).allowKey false

/-- A scalar in lines of its own. -/
def blockScalar (scan : Scan) (folded : Bool) : Option Scan := do
  let cleared ← scan.removeKey
  let (text, after) ← Block.read folded cleared.indent cleared.cursor
  return (cleared.take (.scalar (String.ofList text) false) after).allowKey true

/-- A scalar in quotes. -/
def quotedScalar (scan : Scan) (quote : Char) : Option Scan :=
  scan.nodePart fun cursor =>
    (Quoted.read quote cursor).map fun (text, after) =>
      (.scalar (String.ofList text) false, after)

/-- A scalar without any marks; a key may start after it in a new line. -/
def plainScalar (scan : Scan) : Option Scan := do
  let saved ← scan.saveKey
  let plain ← Plain.read saved.inFlow (saved.indent + 1) saved.cursor
  return (saved.take (.scalar (String.ofList plain.text) true) plain.cursor).allowKey plain.broken

/-- The characters that cannot simply start a plain scalar. -/
def isIndicator (character : Char) : Bool :=
  ['-', '?', ':', ',', '[', ']', '\x7b', '\x7d', '#', '&', '*', '!', '|', '>', '\'', '"', '%',
    '@', '\x60'].contains character

/-- A plain scalar starts here. -/
def startsPlain (scan : Scan) (character : Char) : Bool :=
  let cursor := scan.cursor
  (!isBlank character && !isBreak character && !isIndicator character)
    || (character == '-' && !cursor.seesAhead 1 isBlank)
    || (!scan.inFlow && (character == '?' || character == ':') && !cursor.endsWordAhead 1)

/-- The next token, which starts with a character. -/
def token (scan : Scan) (character : Char) : Option Scan :=
  let cursor := scan.cursor
  let endsWord := cursor.endsWordAhead 1
  if cursor.column == 0 && character == '%' then scan.directive
  else if cursor.isAtMarker '-' then scan.documentMarker .documentStart
  else if cursor.isAtMarker '.' then scan.documentMarker .documentEnd
  else if character == '[' then scan.openFlow .flowSequenceStart
  else if character == '\x7b' then scan.openFlow .flowMappingStart
  else if character == ']' then scan.closeFlow .flowSequenceEnd
  else if character == '\x7d' then scan.closeFlow .flowMappingEnd
  else if character == ',' then scan.flowEntry
  else if character == '-' && endsWord then scan.blockEntry
  else if character == '?' && (scan.inFlow || endsWord) then scan.explicitKey
  else if character == ':' && (scan.inFlow || endsWord) then scan.value
  else if character == '*' then
    scan.nodePart fun cursor =>
      (Property.readName cursor).map fun (name, after) => (.alias name, after)
  else if character == '&' then
    scan.nodePart fun cursor =>
      (Property.readName cursor).map fun (name, after) => (.anchor name, after)
  else if character == '!' then scan.nodePart (Property.readTag scan.inFlow)
  else if character == '|' && !scan.inFlow then scan.blockScalar false
  else if character == '>' && !scan.inFlow then scan.blockScalar true
  else if character == '\'' || character == '"' then scan.quotedScalar character
  else if scan.startsPlain character then scan.plainScalar
  else none

/-- All tokens up to the end of the text, at most so many. -/
def runWithin : Nat → Scan → Option Scan
  | 0, _ => none
  | steps + 1, scan =>
    let begun := scan.toToken
    let aligned := begun.unroll begun.cursor.column
    match aligned.cursor.next? with
    | none => aligned.finish
    | some character =>
      match aligned.token character with
      | none => none
      | some after => runWithin steps after

end Scan

/-- The tokens of a text; none when it cannot be cut into tokens. -/
def tokens (text : String) : Option (List Token) :=
  let characters := text.toList
  if characters.all isPrintable then
    (Scan.runWithin (characters.length + 1) (Scan.start characters)).map fun scan =>
      scan.slots.toList.flatten
  else none

end ContentSchema.Yaml
