/-!
# Finite doubles

A double is a sign and a magnitude `mantissa * 2 ^ exponent`.  The magnitude is
kept in the one form with the least exponent: the exponent is at least `-1074`,
the mantissa is below `2 ^ 53`, and it is at least `2 ^ 52` unless the exponent is
`-1074`.  Two magnitudes are then equal as numbers exactly when they are equal as
values.

Every operation goes through one rounding of an exact fraction of natural
numbers, to the nearest magnitude and to the even mantissa in a tie.
-/

namespace ContentSchema.Decimal

/-- The power of a base with a whole exponent; below nought it counts as one. -/
def raise (base : Nat) (exponent : Int) : Nat :=
  Nat.pow base exponent.toNat

/-- A quotient rounded to the nearest natural number, a half to the even one. -/
def roundedQuotient (numerator denominator : Nat) : Nat :=
  let quotient := numerator / denominator
  let rest := 2 * (numerator % denominator)
  if rest > denominator ∨ (rest = denominator ∧ quotient % 2 = 1) then quotient + 1
  else quotient

/-- An unsigned finite double. -/
structure Magnitude where
  mantissa : Nat
  exponent : Int
  deriving DecidableEq, Repr

namespace Magnitude

/-- The least mantissa with as many binary digits as a double can have. -/
def leastFull : Nat := 4503599627370496

/-- The magnitude nought. -/
def zero : Magnitude := ⟨0, -1074⟩

/-- A magnitude as a fraction: the part above the line. -/
def numerator (magnitude : Magnitude) : Nat :=
  magnitude.mantissa * raise 2 magnitude.exponent

/-- A magnitude as a fraction: the part below the line. -/
def denominator (magnitude : Magnitude) : Nat :=
  raise 2 (-magnitude.exponent)

/-- The greatest power of two that is at most a positive fraction. -/
def binaryOrder (numerator denominator : Nat) : Int :=
  let guess : Int := (numerator.log2 : Int) - (denominator.log2 : Int)
  if denominator * raise 2 guess ≤ numerator * raise 2 (-guess) then guess else guess - 1

/-- The magnitude nearest to a fraction; none when that fraction rounds beyond the greatest. -/
def nearest (numerator denominator : Nat) : Option Magnitude :=
  if numerator = 0 then some zero
  else
    let exponent := max (binaryOrder numerator denominator - 52) (-1074)
    let mantissa :=
      roundedQuotient (numerator * raise 2 (-exponent)) (denominator * raise 2 exponent)
    let rounded : Magnitude :=
      if mantissa = 2 * leastFull then ⟨leastFull, exponent + 1⟩ else ⟨mantissa, exponent⟩
    if rounded.exponent > 971 then none else some rounded

/-- The rounded product of two magnitudes. -/
def times (left right : Magnitude) : Option Magnitude :=
  nearest (left.numerator * right.numerator) (left.denominator * right.denominator)

/-- The rounded quotient of two magnitudes. -/
def dividedBy (left right : Magnitude) : Option Magnitude :=
  nearest (left.numerator * right.denominator) (left.denominator * right.numerator)

/--
The magnitude nearest to `digits * 10 ^ exponent`.  A number of more than 310
digits before the point is beyond the greatest magnitude, and one with more than
330 noughts after it rounds to nought, so no large power is ever formed.
-/
def ofDecimal (digits : Nat) (exponent : Int) : Option Magnitude :=
  let order := exponent + ((Nat.toDigits 10 digits).length : Int)
  if digits = 0 ∨ order < -330 then some zero
  else if order > 310 then none
  else nearest (digits * raise 10 exponent) (raise 10 (-exponent))

end Magnitude

/-- A finite double: nought has both signs. -/
structure Double where
  negative : Bool
  magnitude : Magnitude
  deriving DecidableEq, Repr

end ContentSchema.Decimal
