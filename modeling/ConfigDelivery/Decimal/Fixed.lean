import ConfigDelivery.Decimal.Shortest
/-!
# A chosen number of digits

Rounding the exact value of a binary64 number to a number of digits: counted
behind the point, or from the first digit on. Which way a tie goes is the
caller's choice.
-/

namespace ConfigDelivery.Decimal

/-- Which way a value goes that lies halfway between two candidates. -/
inductive Tie where
  | toEven
  | up
  deriving DecidableEq, Repr

/-- Divide and round to the nearest whole number. -/
def Tie.quotient (tie : Tie) (numerator denominator : Nat) : Nat :=
  match tie with
  | .toEven => roundedQuotient numerator denominator
  | .up => (2 * numerator + denominator) / (2 * denominator)

namespace Binary64

/-- The magnitude of a finite number in units of `10 ^ power`, rounded. -/
def unitsOf (number : Binary64) (tie : Tie) (power : Int) : Nat :=
  let (top, bottom) := number.ratio
  tie.quotient (top * Nat.pow 10 (-power).toNat) (bottom * Nat.pow 10 power.toNat)

/-- The magnitude of a finite number with a number of digits behind the point. -/
def fixedChars (number : Binary64) (tie : Tie) (places : Nat) : List Char :=
  let digits := Text.natDigits (number.unitsOf tie (-places))
  let digits := zeros (places + 1 - digits.length) ++ digits
  let whole := digits.take (digits.length - places)
  if places = 0 then whole else whole ++ '.' :: digits.drop (digits.length - places)

/-- The magnitude of a finite number rounded to a number of digits, at least one, counted from the
first that is not zero; and the power of ten of the first digit. -/
def significant (number : Binary64) (tie : Tie) (count : Nat) : List Char × Int :=
  if number.mantissa = 0 then (zeros count, 0)
  else
    let (top, bottom) := number.ratio
    let leading := floorLog10 top bottom
    let digits := Text.natDigits (number.unitsOf tie (leading - count + 1))
    if digits.length ≤ count then (digits, leading) else (digits.take count, leading + 1)

end Binary64

end ConfigDelivery.Decimal
