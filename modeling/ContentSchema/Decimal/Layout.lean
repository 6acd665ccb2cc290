import ContentSchema.Decimal.Shortest

/-!
# How a double is written

The shortest digits are laid out with a decimal point when the number is at
least `1e-5` and below `1e16`, and then at least one digit stands on either side
of the point.  All other numbers have one digit, a point only if more digits
follow, and an exponent whose sign is always written.
-/

namespace ContentSchema.Decimal

/-- Digits with the noughts at their end taken away. -/
def trimNoughts (digits : List Char) : List Char :=
  (digits.reverse.dropWhile (· == '0')).reverse

/--
The digits `d₁d₂…` laid out so that they stand for `0.d₁d₂… * 10 ^ point`.
-/
def layOut (digits : List Char) (point : Int) : List Char :=
  let count : Int := digits.length
  if -5 < point ∧ point ≤ 0 then
    '0' :: '.' :: (List.replicate (-point).toNat '0' ++ digits)
  else if 0 < point ∧ point < count then
    digits.take point.toNat ++ '.' :: digits.drop point.toNat
  else if count ≤ point ∧ point ≤ 16 then
    digits ++ List.replicate (point - count).toNat '0' ++ ['.', '0']
  else
    let fraction := if digits.length ≤ 1 then [] else '.' :: digits.drop 1
    let sign := if point - 1 < 0 then '-' else '+'
    digits.take 1 ++ fraction ++ 'e' :: sign :: Nat.toDigits 10 (point - 1).natAbs

namespace Double

/-- The text of a double. -/
def text (value : Double) : String :=
  let sign := if value.negative then "-" else ""
  if value.magnitude.mantissa = 0 then sign ++ "0.0"
  else
    let decimal := value.magnitude.shortest
    let digits := Nat.toDigits 10 decimal.digits
    sign ++ String.ofList (layOut (trimNoughts digits) (decimal.exponent + digits.length))

end Double

end ContentSchema.Decimal
