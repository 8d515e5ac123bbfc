import ConfigDelivery.Decimal.Binary64
import ConfigDelivery.Text.Integer
/-!
# Fewest digits that read back

The shortest decimal that lies nearer to a binary64 number than to any other,
and the layouts in which such a decimal is written. A layout is data: the place
of the point from which the exponent is written out, and how.
-/

namespace ConfigDelivery.Decimal

/-- A positive decimal number `digits * 10 ^ power`; its last digit is not zero. -/
structure Scientific where
  digits : Nat
  power : Int
  deriving DecidableEq, Repr

namespace Scientific

/-- Move trailing zeros of the digits into the power; `fuel` bounds their count. -/
def normalize : Nat → Scientific → Scientific
  | 0, number => number
  | fuel + 1, number =>
    if number.digits ≠ 0 ∧ number.digits % 10 = 0 then
      normalize fuel ⟨number.digits / 10, number.power + 1⟩
    else number

/-- The digits as text. -/
def digitChars (number : Scientific) : List Char :=
  Text.natDigits number.digits

/-- The number of digits before the decimal point; not positive for numbers below one tenth. -/
def pointPlace (number : Scientific) : Int :=
  number.digitChars.length + number.power

end Scientific

/-- The greatest power of ten that is not above a positive fraction. -/
def floorLog10 (numerator denominator : Nat) : Int :=
  let reaches (power : Int) : Bool :=
    denominator * Nat.pow 10 power.toNat ≤ numerator * Nat.pow 10 (-power).toNat
  let estimate := ((numerator.log2 : Int) - denominator.log2) * 30103 / 100000
  if reaches (estimate + 2) then estimate + 2
  else if reaches (estimate + 1) then estimate + 1
  else if reaches estimate then estimate
  else if reaches (estimate - 1) then estimate - 1
  else estimate - 2

/-- The reals that round to a positive binary64 number, as fractions over one denominator. -/
structure RoundingInterval where
  low : Nat
  value : Nat
  high : Nat
  denominator : Nat
  closed : Bool

/-- The rounding interval of the magnitude of a finite number other than zero. Below a power of
two the neighbour is only half as far away. -/
def RoundingInterval.of (number : Binary64) : RoundingInterval :=
  let mantissa := number.mantissa
  let scale := Nat.pow 2 number.exponent.toNat
  let lowGap := if mantissa = Binary64.leadingBit ∧ 1 < number.exponentField then 1 else 2
  { low := (4 * mantissa - lowGap) * scale
    value := 4 * mantissa * scale
    high := (4 * mantissa + 2) * scale
    denominator := 4 * Nat.pow 2 (-number.exponent).toNat
    closed := mantissa % 2 = 0 }

namespace RoundingInterval

/-- The decimal `digits * 10 ^ power` lies in the interval. -/
def contains (interval : RoundingInterval) (digits : Nat) (power : Int) : Bool :=
  let point := digits * Nat.pow 10 power.toNat * interval.denominator
  let unit := Nat.pow 10 (-power).toNat
  if interval.closed then
    interval.low * unit ≤ point && point ≤ interval.high * unit
  else
    interval.low * unit < point && point < interval.high * unit

/-- The multiple of `10 ^ power` in the interval that is nearest to the value; of two equally
near the even one. -/
def onGrid? (interval : RoundingInterval) (power : Int) : Option Nat :=
  let top := interval.value * Nat.pow 10 (-power).toNat
  let bottom := interval.denominator * Nat.pow 10 power.toNat
  let below := top / bottom
  let nearest := roundedQuotient top bottom
  let other := if nearest = below then below + 1 else below
  if interval.contains nearest power then some nearest
  else if interval.contains other power then some other
  else none

/-- The first grid, from coarse to fine, with a point in the interval. -/
def firstGrid (interval : RoundingInterval) : Nat → Int → Scientific
  | 0, power =>
    let top := interval.value * Nat.pow 10 (-power).toNat
    let bottom := interval.denominator * Nat.pow 10 power.toNat
    ⟨top / bottom, power⟩
  | finer + 1, power =>
    match interval.onGrid? power with
    | some digits => ⟨digits, power⟩
    | none => firstGrid interval finer (power - 1)

end RoundingInterval

/-- The decimal with the fewest digits that rounds to the magnitude of a finite number other
than zero; of several the nearest. -/
def Binary64.shortest (number : Binary64) : Scientific :=
  let interval := RoundingInterval.of number
  let leading := floorLog10 interval.value interval.denominator
  (interval.firstGrid 17 leading).normalize 400

/-- How a decimal number is laid out in text. -/
structure Layout where
  /-- Positional notation is used while the point stands at this place or before. -/
  lastPlace : Int
  /-- Positional notation is used while the point stands after this place. -/
  firstPlace : Int
  /-- A whole number in positional notation keeps a point and a zero. -/
  keepsPoint : Bool

/-- Zeros in front of a fraction or behind a whole number. -/
def zeros (count : Nat) : List Char := List.replicate count '0'

/-- Lay out a positive decimal number. -/
def Layout.write (layout : Layout) (number : Scientific) : List Char :=
  let digits := number.digitChars
  let place := number.pointPlace
  if layout.firstPlace < place ∧ place ≤ layout.lastPlace then
    if place ≤ 0 then
      '0' :: '.' :: (zeros (-place).toNat ++ digits)
    else if (digits.length : Int) ≤ place then
      digits ++ zeros (place - digits.length).toNat ++
        (if layout.keepsPoint then ['.', '0'] else [])
    else
      digits.take place.toNat ++ '.' :: digits.drop place.toNat
  else
    let exponent := place - 1
    let sign := if exponent < 0 then '-' else '+'
    let head :=
      match digits with
      | [] => []
      | [digit] => [digit]
      | digit :: rest => digit :: '.' :: rest
    head ++ 'e' :: sign :: Text.natDigits exponent.natAbs

end ConfigDelivery.Decimal
