import ContentSchema.Json.Number
import ContentSchema.Text.Literal

/-!
# Tokens of JSON text

A text is cut into brackets, separators, literals and the other scalar values.
Blanks between tokens are the four that JSON knows.  Two scalars that stand
against each other become two tokens; the grammar has no place for them.
-/

namespace ContentSchema.Json

open Text

/-- The smallest parts of a text that mean something. -/
inductive Token where
  | openArray
  | closeArray
  | openObject
  | closeObject
  | comma
  | colon
  | string (text : String)
  | scalar (value : Document)
  deriving Repr

/-- A character that may stand between tokens. -/
def isSeparating (character : Char) : Bool :=
  character == ' ' || character == '\t' || character == '\n' || character == '\r'

/-- The token at the start of a text, with the text after it. -/
def readToken : List Char → Option (Token × List Char)
  | [] => none
  | '[' :: rest => some (.openArray, rest)
  | ']' :: rest => some (.closeArray, rest)
  | '\x7b' :: rest => some (.openObject, rest)
  | '\x7d' :: rest => some (.closeObject, rest)
  | ',' :: rest => some (.comma, rest)
  | ':' :: rest => some (.colon, rest)
  | '"' :: rest =>
    (Literal.readBody rest).map fun read => (.string (String.ofList read.1), read.2)
  | 'n' :: 'u' :: 'l' :: 'l' :: rest => some (.scalar .null, rest)
  | 't' :: 'r' :: 'u' :: 'e' :: rest => some (.scalar (.boolean true), rest)
  | 'f' :: 'a' :: 'l' :: 's' :: 'e' :: rest => some (.scalar (.boolean false), rest)
  | text => do
    let (numeral, rest) ← readNumeral text
    some (.scalar (← numeral.document?), rest)

/--
All tokens of a text, in order; none when some part of it is no token.  Every
token takes up at least one character, so as many steps as there are characters
are enough.
-/
def tokensWithin : Nat → List Char → Option (List Token)
  | 0, text => if text.all isSeparating then some [] else none
  | steps + 1, text =>
    match text.dropWhile isSeparating with
    | [] => some []
    | start =>
      match readToken start with
      | none => none
      | some (token, rest) => (tokensWithin steps rest).map (token :: ·)

/-- All tokens of a text. -/
def tokens (text : String) : Option (List Token) :=
  let characters := text.toList
  tokensWithin characters.length characters

end ContentSchema.Json
