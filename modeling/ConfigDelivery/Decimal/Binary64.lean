/-!
# Binary floating-point numbers of 64 bits

A number of the binary64 format is kept as its bit pattern and read as an exact
multiple of a power of two, so that rounding, truncation and printing are
statements about natural numbers. Nothing here uses the machine's own floating
point.
-/

namespace ConfigDelivery.Decimal

/-- A number of the binary64 format, given by its bit pattern. -/
structure Binary64 where
  bits : UInt64
  deriving DecidableEq, Repr, Inhabited

/-- Divide and round to the nearest whole number; of two equally near the even one. -/
def roundedQuotient (numerator denominator : Nat) : Nat :=
  let quotient := numerator / denominator
  let twiceRest := 2 * (numerator % denominator)
  if denominator < twiceRest then quotient + 1
  else if twiceRest = denominator && quotient % 2 = 1 then quotient + 1
  else quotient

namespace Binary64

/-- The place above the fifty-two fraction bits: the leading bit of a mantissa that is not of
the smallest exponent, and the unit of the exponent field. -/
def leadingBit : Nat := 0x10000000000000

/-- The weight of the sign bit. -/
def signBit : Nat := 0x8000000000000000

/-- The exponent field of the numbers that are infinite or undefined. -/
def topField : Nat := 0x7ff

/-- The sign bit. -/
def isNegative (number : Binary64) : Bool :=
  signBit ≤ number.bits.toNat

/-- The eleven exponent bits. -/
def exponentField (number : Binary64) : Nat :=
  number.bits.toNat / leadingBit % (topField + 1)

/-- The fifty-two fraction bits. -/
def fractionField (number : Binary64) : Nat :=
  number.bits.toNat % leadingBit

/-- Neither infinite nor undefined. -/
def isFinite (number : Binary64) : Bool :=
  number.exponentField != topField

/-- The whole number that the magnitude of a finite number is a multiple of a power of two by. -/
def mantissa (number : Binary64) : Nat :=
  if number.exponentField = 0 then number.fractionField else number.fractionField + leadingBit

/-- The exponent of the power of two that `mantissa` counts. -/
def exponent (number : Binary64) : Int :=
  if number.exponentField = 0 then -1074 else (number.exponentField : Int) - 1075

/-- The magnitude of a finite number as a fraction of natural numbers. -/
def ratio (number : Binary64) : Nat × Nat :=
  (number.mantissa * Nat.pow 2 number.exponent.toNat, Nat.pow 2 (-number.exponent).toNat)

/-- The number of a sign, and of the eleven exponent and fifty-two fraction bits. -/
def ofFields (negative : Bool) (exponentField fractionField : Nat) : Binary64 :=
  let sign := if negative then signBit else 0
  ⟨UInt64.ofNat (sign + exponentField * leadingBit + fractionField)⟩

/-- Zero of either sign. -/
def zero (negative : Bool) : Binary64 := ofFields negative 0 0

/-- Infinity of either sign. -/
def infinity (negative : Bool) : Binary64 := ofFields negative topField 0

/-- The least exponent at which `numerator / denominator` has at most fifty-three bits before
the binary point, but never below that of the smallest number. -/
def scaleOf (numerator denominator : Nat) : Int :=
  let estimate : Int := (numerator.log2 : Int) - denominator.log2 - 53
  let fits (exponent : Int) : Bool :=
    numerator * Nat.pow 2 (-exponent).toNat
      < 2 * leadingBit * (denominator * Nat.pow 2 exponent.toNat)
  let exponent :=
    if fits estimate then estimate
    else if fits (estimate + 1) then estimate + 1
    else estimate + 2
  max exponent (-1074)

/-- The number nearest to a fraction; of two equally near the one with an even mantissa, and
infinity from half a step above the largest finite number. -/
def ofRatio (negative : Bool) (numerator denominator : Nat) : Binary64 :=
  if numerator = 0 then zero negative
  else
    let exponent := scaleOf numerator denominator
    let mantissa :=
      roundedQuotient (numerator * Nat.pow 2 (-exponent).toNat)
        (denominator * Nat.pow 2 exponent.toNat)
    let (mantissa, exponent) :=
      if mantissa = 2 * leadingBit then (leadingBit, exponent + 1) else (mantissa, exponent)
    if 971 < exponent then infinity negative
    else if mantissa < leadingBit then ofFields negative 0 mantissa
    else ofFields negative (exponent + 1075).toNat (mantissa - leadingBit)

/-- The number nearest to a whole number. -/
def ofInt (value : Int) : Binary64 :=
  ofRatio (value < 0) value.natAbs 1

/-- The product of two finite numbers, rounded once. -/
def mul (left right : Binary64) : Binary64 :=
  let (leftTop, leftBottom) := left.ratio
  let (rightTop, rightBottom) := right.ratio
  ofRatio (left.isNegative != right.isNegative) (leftTop * rightTop) (leftBottom * rightBottom)

/-- The quotient of a finite number by a finite number other than zero, rounded once. -/
def div (left right : Binary64) : Binary64 :=
  let (leftTop, leftBottom) := left.ratio
  let (rightTop, rightBottom) := right.ratio
  ofRatio (left.isNegative != right.isNegative) (leftTop * rightBottom) (leftBottom * rightTop)

/-- A finite number without its fractional part. -/
def truncated (number : Binary64) : Int :=
  let (top, bottom) := number.ratio
  let magnitude : Int := (top / bottom : Nat)
  if number.isNegative then -magnitude else magnitude

/-- Equality of values: zeros of either sign are equal. -/
def sameValue (left right : Binary64) : Bool :=
  left = right || (left.mantissa = 0 && right.mantissa = 0 && left.isFinite && right.isFinite)

/-- The number nearest to `digits * 10 ^ power`. Powers beyond the reach of the format are
decided by the count of digits alone. -/
def ofDecimal (negative : Bool) (digits : Nat) (power : Int) : Binary64 :=
  if digits = 0 then zero negative
  else
    let magnitude : Int := (Nat.toDigits 10 digits).length + power
    if 310 < magnitude then infinity negative
    else if magnitude < -326 then zero negative
    else ofRatio negative (digits * Nat.pow 10 power.toNat) (Nat.pow 10 (-power).toNat)

end Binary64

end ConfigDelivery.Decimal
