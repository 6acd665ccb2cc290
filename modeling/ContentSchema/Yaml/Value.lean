import ContentSchema.Document
import ContentSchema.Text.Literal
import ContentSchema.Yaml.Node

/-!
# Values of scalars

A plain scalar is null, a truth value, a whole number, a double or a text, tried in
this order.  A number with a nought in front of another digit is a text, and so is
a double beyond the greatest; infinities and what is no number are null.  A whole
number that fits 128 bits but not 64 has no value.

A tag of the core schema asks for one of these sorts, in quotes or not.  Any other
tag makes the scalar a text, as quotes do, but the name of a type of an application
is refused.
-/

namespace ContentSchema.Yaml.Value

open Decimal (Double Magnitude)
open Text (Literal.hexValue)

/-- The texts that mean null. -/
def isNull (text : String) : Bool :=
  ["null", "Null", "NULL", "~"].contains text

/-- The truth value that a text means. -/
def boolean? (text : String) : Option Bool :=
  if ["true", "True", "TRUE"].contains text then some true
  else if ["false", "False", "FALSE"].contains text then some false
  else none

/-- The value of a digit to a base of at most sixteen. -/
def digit? (base : Nat) (character : Char) : Option Nat :=
  (Literal.hexValue character).filter fun value => decide (value < base)

/-- The number that digits to a base write; there has to be a digit. -/
def natural? (base : Nat) : List Char → Option Nat
  | [] => none
  | digits =>
    digits.foldlM (fun value character => (digit? base character).map (value * base + ·)) 0

/-- The number that digits write whose base may be given by a letter. -/
def prefixed? (text : List Char) : Option Nat :=
  let decimal := natural? 10 text
  match text with
  | '0' :: 'x' :: digits => (natural? 16 digits).or decimal
  | '0' :: 'o' :: digits => (natural? 8 digits).or decimal
  | '0' :: 'b' :: digits => (natural? 2 digits).or decimal
  | _ => decimal

/-- A sign in front of a text. -/
inductive Sign where
  | plus
  | minus
  | absent
  deriving DecidableEq

/-- A text with its sign apart. -/
def splitSign : List Char → Sign × List Char
  | '+' :: rest => (.plus, rest)
  | '-' :: rest => (.minus, rest)
  | text => (.absent, text)

/-- A nought in front of further digits, and nothing else but a sign. -/
def hasLeadingNought (text : List Char) : Bool :=
  match (splitSign text).2 with
  | '0' :: digit :: rest => (digit :: rest).all Char.isDigit
  | _ => false

/-- The whole number that a text writes, whatever its size. -/
def integer? (text : List Char) : Option Int :=
  if hasLeadingNought text then none
  else
    let (sign, digits) := splitSign text
    (prefixed? digits).map fun value =>
      match sign with
      | .minus => -(value : Int)
      | _ => (value : Int)

/-- A decimal number with its point and its exponent apart. -/
structure Numeral where
  whole : List Char
  fraction : List Char
  exponent : Int

/-- The exponent that a text writes, which may be empty. -/
def exponent? : List Char → Option Int
  | [] => some 0
  | letter :: rest =>
    if letter == 'e' || letter == 'E' then
      let (sign, digits) := splitSign rest
      (natural? 10 digits).map fun value =>
        match sign with
        | .minus => -(value : Int)
        | _ => (value : Int)
    else none

/-- The parts of a decimal number, which has at least one digit before its exponent. -/
def numeral? (text : List Char) : Option Numeral := do
  let whole := text.takeWhile Char.isDigit
  let afterWhole := text.dropWhile Char.isDigit
  let afterPoint := if afterWhole.head? == some '.' then afterWhole.tail else []
  let fraction := afterPoint.takeWhile Char.isDigit
  let rest :=
    if afterWhole.head? == some '.' then afterPoint.dropWhile Char.isDigit else afterWhole
  if whole.isEmpty && fraction.isEmpty then none
  else return ⟨whole, fraction, ← exponent? rest⟩

/-- The magnitude of a decimal number; none beyond the greatest. -/
def Numeral.magnitude? (numeral : Numeral) : Option Magnitude := do
  let digits ← natural? 10 (numeral.whole ++ numeral.fraction)
  Magnitude.ofDecimal digits (numeral.exponent - numeral.fraction.length)

/-- A text that means an infinity, or something that is no number. -/
def isUnlimited (text : String) : Bool :=
  [ ".inf", ".Inf", ".INF", "+.inf", "+.Inf", "+.INF", "-.inf", "-.Inf", "-.INF", ".nan",
    ".NaN", ".NAN" ].contains text

/-- The finite double that a text writes. -/
def double? (text : List Char) : Option Double := do
  let (sign, digits) := splitSign text
  let numeral ← numeral? digits
  return ⟨sign == .minus, ← numeral.magnitude?⟩

/-- The document of a double; those without a finite value are null. -/
def float? (text : String) : Option Document :=
  if isUnlimited text then some .null else (double? text.toList).map .float

/-- The outcome of reading a text as a whole number. -/
inductive Whole where
  | value (value : Int)
  /-- The number fits 128 bits, but not 64. -/
  | tooLarge
  /-- The text is no number, or one for which even 128 bits are not enough. -/
  | absent

/-- A number fits that many bits, as a signed integer or as an unsigned one. -/
def fitsBits (bits : Nat) (number : Int) : Bool :=
  let bound : Int := Int.ofNat (Nat.pow 2 (bits - 1))
  decide (-bound ≤ number ∧ number < 2 * bound)

/-- Read a text as a whole number. -/
def whole (text : List Char) : Whole :=
  match integer? text with
  | none => .absent
  | some number =>
    if fitsBits 64 number then .value number
    else if fitsBits 128 number then .tooLarge
    else .absent

/-- The value of a plain scalar without a tag. -/
def ofPlain (text : String) : Option Document :=
  if text == "" || isNull text then some .null
  else
    match boolean? text with
    | some value => some (.boolean value)
    | none =>
      match whole text.toList with
      | .value number => some (.integer number)
      | .tooLarge => none
      | .absent =>
        if hasLeadingNought text.toList then some (.string text)
        else some ((float? text).getD (.string text))

/-- A tag of the core schema. -/
def coreTag (name : String) : Uri :=
  .ofAscii ("tag:yaml.org,2002:" ++ name)

/-- What a tag makes of a node. -/
inductive Demand where
  | boolean
  | integer
  | float
  | null
  /-- Any scalar is a text. -/
  | text
  /-- The tag only means something to one application: the node is refused. -/
  | refusal
  /-- The tag means nothing at all. -/
  | nothing
  deriving DecidableEq, Repr

/--
What a tag makes of a node.  One that starts with an exclamation mark is the name of
a type of an application, or no name at all if its octets are not a text.
-/
def demand (tag : Uri) : Demand :=
  if tag.startsWith '!' then if tag.isText then .refusal else .nothing
  else if tag == coreTag "bool" then .boolean
  else if tag == coreTag "int" then .integer
  else if tag == coreTag "float" then .float
  else if tag == coreTag "null" then .null
  else .text

/-- What the tag of a node makes of it, if it has one. -/
def demandOf (tag : Option Uri) : Demand :=
  (tag.map demand).getD .nothing

/-- The value of a scalar without a tag. -/
def ofUntagged (text : String) (isPlain : Bool) : Option Document :=
  if isPlain then ofPlain text else some (.string text)

/-- The value of a scalar. -/
def ofScalar (tag : Option Uri) (text : String) (isPlain : Bool) : Option Document :=
  match demandOf tag with
  | .boolean => (boolean? text).map .boolean
  | .integer =>
    match whole text.toList with
    | .value number => some (.integer number)
    | _ => none
  | .float => float? text
  | .null => if isNull text then some .null else none
  | .text => some (.string text)
  | .refusal => none
  | .nothing => ofUntagged text isPlain

end ContentSchema.Yaml.Value
