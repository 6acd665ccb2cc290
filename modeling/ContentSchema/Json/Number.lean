import ContentSchema.Document

/-!
# Numbers of JSON text

A number is a sign, a whole part without a nought in front, and optionally a
fraction and an exponent.  Without these two it is whole, if it fits the signed
or the unsigned 64-bit integers; a negative nought is a double all the same.

Every other number is a double that is computed in two roundings: the digits
that fit 64 bits form a significand, the digits of the whole part that no longer
fit raise the exponent, those of the fraction are dropped, and the rounded
significand is multiplied or divided by a rounded power of ten.
-/

namespace ContentSchema.Json

open Decimal (Double Magnitude)

/-- A number as it is written, before it has a value. -/
structure Numeral where
  negative : Bool
  whole : List Char
  fraction : Option (List Char)
  exponent : Option (Bool × List Char)
  deriving Repr

/-- The value of a decimal digit. -/
def digitValue (digit : Char) : Nat :=
  digit.toNat - 0x30

/-- A significand of at most 64 bits with the power of ten that goes with it. -/
structure Significand where
  value : Nat
  exponent : Int
  /-- A digit was too much, so all later digits are left out of the value. -/
  full : Bool

namespace Significand

/-- The greatest value that a significand can have. -/
def limit : Nat := 18446744073709551615

/-- Add a digit if there is room for it. -/
def push? (significand : Significand) (digit : Char) : Option Nat :=
  let value := significand.value * 10 + digitValue digit
  if significand.full ∨ limit < value then none else some value

/-- A digit before the point: one without room still moves the point. -/
def pushWhole (significand : Significand) (digit : Char) : Significand :=
  match significand.push? digit with
  | some value => ⟨value, significand.exponent, false⟩
  | none => ⟨significand.value, significand.exponent + 1, true⟩

/-- A digit after the point: one without room is dropped. -/
def pushFraction (significand : Significand) (digit : Char) : Significand :=
  match significand.push? digit with
  | some value => ⟨value, significand.exponent - 1, false⟩
  | none => ⟨significand.value, significand.exponent, true⟩

end Significand

/-- The magnitude nearest to a power of ten. -/
def powerOfTen (exponent : Nat) : Option Magnitude :=
  Magnitude.nearest (Nat.pow 10 exponent) 1

/-- The greatest power of ten that is a finite double has this exponent. -/
def greatestPower : Nat := 308

/-- A magnitude times a power of ten, each step rounded; none beyond the greatest magnitude. -/
def scaleUp (magnitude : Magnitude) (exponent : Nat) : Option Magnitude := do
  if exponent ≤ greatestPower then
    magnitude.times (← powerOfTen exponent)
  else if magnitude.mantissa = 0 then some magnitude
  else none

/-- A magnitude over a power of ten, by steps of at most the greatest power, each rounded. -/
def scaleDown (magnitude : Magnitude) (exponent : Nat) : Option Magnitude := do
  if exponent ≤ greatestPower then
    magnitude.dividedBy (← powerOfTen exponent)
  else if magnitude.mantissa = 0 then some magnitude
  else
    let smaller ← magnitude.dividedBy (← powerOfTen greatestPower)
    scaleDown smaller (exponent - greatestPower)
termination_by exponent
decreasing_by
  simp only [greatestPower] at *
  omega

/-- The magnitude of a significand with its power of ten. -/
def magnitudeOf (value : Nat) (exponent : Int) : Option Magnitude := do
  let magnitude ← Magnitude.nearest value 1
  if exponent < 0 then scaleDown magnitude exponent.natAbs
  else scaleUp magnitude exponent.natAbs

namespace Numeral

/-- The number that a run of digits writes. -/
def natural (digits : List Char) : Nat :=
  digits.foldl (fun value digit => value * 10 + digitValue digit) 0

/-- The greatest exponent that is told apart from greater ones. -/
def exponentLimit : Nat := 2147483647

/-- The significand of all the digits of a numeral: a fraction has its own chance to fit. -/
def significand (numeral : Numeral) : Significand :=
  let whole := numeral.whole.foldl Significand.pushWhole ⟨0, 0, false⟩
  (numeral.fraction.getD []).foldl Significand.pushFraction
    ⟨whole.value, whole.exponent, false⟩

/--
The magnitude of a numeral.  A written exponent beyond the limit makes the number
nought or too large at once.
-/
def magnitude? (numeral : Numeral) : Option Magnitude :=
  let significand := numeral.significand
  match numeral.exponent with
  | none => magnitudeOf significand.value significand.exponent
  | some (negative, digits) =>
    let written := natural digits
    if exponentLimit < written then
      if significand.value ≠ 0 ∧ negative = false then none else some Magnitude.zero
    else
      magnitudeOf significand.value
        (significand.exponent + if negative then -(written : Int) else (written : Int))

/-- The whole number of a numeral without fraction and exponent, if it is one. -/
def integer? (numeral : Numeral) : Option Int :=
  match numeral.fraction, numeral.exponent with
  | none, none =>
    let value := natural numeral.whole
    if numeral.negative then
      if 0 < value ∧ value ≤ 9223372036854775808 then some (-(value : Int)) else none
    else if value ≤ Significand.limit then some (value : Int) else none
  | _, _ => none

/-- The document of a numeral; none when its value is beyond the greatest double. -/
def document? (numeral : Numeral) : Option Document :=
  match numeral.integer? with
  | some value => some (.integer value)
  | none => numeral.magnitude?.map fun magnitude => .float ⟨numeral.negative, magnitude⟩

end Numeral

/-- A character is one of the ten decimal digits. -/
def isDigit (character : Char) : Bool :=
  '0' ≤ character && character ≤ '9'

/-- The digits at the start of a text, at least one, with the text after them. -/
def readDigits (text : List Char) : Option (List Char × List Char) :=
  match text.takeWhile isDigit with
  | [] => none
  | digits => some (digits, text.dropWhile isDigit)

/-- The whole part at the start of a text: a nought stands alone. -/
def readWhole : List Char → Option (List Char × List Char)
  | '0' :: rest =>
    match rest with
    | [] => some (['0'], [])
    | next :: _ => if isDigit next then none else some (['0'], rest)
  | text => readDigits text

/-- The fraction at the start of a text, if a point stands there. -/
def readFraction : List Char → Option (Option (List Char) × List Char)
  | '.' :: rest => (readDigits rest).map fun read => (some read.1, read.2)
  | text => some (none, text)

/-- The sign and the digits of an exponent. -/
def readSignedDigits : List Char → Option ((Bool × List Char) × List Char)
  | '-' :: rest => (readDigits rest).map fun read => ((true, read.1), read.2)
  | '+' :: rest => (readDigits rest).map fun read => ((false, read.1), read.2)
  | text => (readDigits text).map fun read => ((false, read.1), read.2)

/-- The exponent at the start of a text, if its letter stands there. -/
def readExponent : List Char → Option (Option (Bool × List Char) × List Char)
  | letter :: rest =>
    if letter = 'e' ∨ letter = 'E' then
      (readSignedDigits rest).map fun read => (some read.1, read.2)
    else some (none, letter :: rest)
  | [] => some (none, [])

/-- The numeral at the start of a text, with the text after it. -/
def readNumeral (text : List Char) : Option (Numeral × List Char) := do
  let negative := text.head? = some '-'
  let (whole, afterWhole) ← readWhole (if negative then text.tail else text)
  let (fraction, afterFraction) ← readFraction afterWhole
  let (exponent, rest) ← readExponent afterFraction
  some (⟨negative, whole, fraction, exponent⟩, rest)

end ContentSchema.Json
