import ContentSchema.Decimal.Double

/-!
# The shortest decimal that reads back

The reals that round to a magnitude form an interval around it, whose ends
belong to it exactly when the mantissa is even.  The decimals with a given
number of digits form a grid; if any point of the grid lies in the interval, one
of the two neighbours of the magnitude on the grid does.  The shortest decimal is
such a neighbour on the first grid that has one, the nearer of two.
-/

namespace ContentSchema.Decimal

/-- The decimal number `digits * 10 ^ exponent`. -/
structure Scaled where
  digits : Nat
  exponent : Int
  deriving DecidableEq, Repr

/-- The greatest power of ten that is at most a positive fraction. -/
def decimalOrder (numerator denominator : Nat) : Int :=
  if denominator ≤ numerator then
    ((Nat.toDigits 10 (numerator / denominator)).length : Int) - 1
  else
    let order := (Nat.toDigits 10 (denominator / numerator)).length - 1
    if denominator = numerator * Nat.pow 10 order then -(order : Int) else -(order : Int) - 1

namespace Magnitude

/-- The exponent of the unit in which the interval of a magnitude has whole ends. -/
def quarterExponent (magnitude : Magnitude) : Int :=
  magnitude.exponent - 2

/-- The lower end of the interval: half as far away at a power of two as elsewhere. -/
def lowerQuarters (magnitude : Magnitude) : Nat :=
  if magnitude.mantissa = leastFull ∧ magnitude.exponent > -1074 then
    4 * magnitude.mantissa - 1
  else 4 * magnitude.mantissa - 2

/-- The upper end of the interval. -/
def upperQuarters (magnitude : Magnitude) : Nat :=
  4 * magnitude.mantissa + 2

/-- A decimal reads back as a magnitude when it lies in the interval. -/
def holds (magnitude : Magnitude) (decimal : Scaled) : Bool :=
  let quarter := magnitude.quarterExponent
  let point := decimal.digits * raise 10 decimal.exponent * raise 2 (-quarter)
  let scale := raise 10 (-decimal.exponent) * raise 2 quarter
  let lower := magnitude.lowerQuarters * scale
  let upper := magnitude.upperQuarters * scale
  if magnitude.mantissa % 2 = 0 then lower ≤ point && point ≤ upper
  else lower < point && point < upper

/-- The decimal on the grid of an exponent that reads back and lies nearest, if one does. -/
def neighbour? (magnitude : Magnitude) (exponent : Int) : Option Scaled :=
  let value := magnitude.numerator * raise 10 (-exponent)
  let unit := magnitude.denominator * raise 10 exponent
  let below : Scaled := ⟨value / unit, exponent⟩
  let above : Scaled := ⟨value / unit + 1, exponent⟩
  match magnitude.holds below, magnitude.holds above with
  | true, true => some ⟨roundedQuotient value unit, exponent⟩
  | true, false => some below
  | false, true => some above
  | false, false => none

/-- The first grid with a neighbour that reads back, from one digit to the given number. -/
def firstNeighbour (magnitude : Magnitude) (order : Int) : Nat → Scaled
  | 0 => ⟨magnitude.numerator, 0⟩
  | further + 1 =>
    match magnitude.neighbour? order with
    | some decimal => decimal
    | none => firstNeighbour magnitude (order - 1) further

/-- The shortest decimal that reads back as a positive magnitude; seventeen digits always do. -/
def shortest (magnitude : Magnitude) : Scaled :=
  magnitude.firstNeighbour (decimalOrder magnitude.numerator magnitude.denominator) 17

end Magnitude

end ContentSchema.Decimal
