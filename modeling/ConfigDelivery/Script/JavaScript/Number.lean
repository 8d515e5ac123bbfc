import ConfigDelivery.Decimal.Fixed
import ConfigDelivery.Script.JavaScript.Token
/-!
# JavaScript numbers as text

How a number is written, in decimal and in other bases, how a text is read as one,
and how one becomes a word of 32 bits.
-/

namespace ConfigDelivery.Script.JavaScript

open ConfigDelivery.Decimal (Binary64)

/-- Numbers are written positionally from a millionth up to twenty-one digits. -/
def numberLayout : Decimal.Layout := ⟨21, -6, false⟩

/-- The bit pattern of a number. -/
def binaryOf (number : Float) : Binary64 := ⟨number.toBits⟩

/-- The number of a bit pattern. -/
def floatOf (number : Binary64) : Float := Float.ofBits number.bits

/-- The number nearest to a whole number. -/
def floatOfInt (value : Int) : Float := floatOf (Binary64.ofInt value)

/-- A whole number that is exact. -/
def exactInt? (number : Float) : Option Int :=
  if number.floor == number && number.abs < 9007199254740992 then some number.toInt64.toInt
  else none

/-- The whole part of a finite number; zero for others. -/
def truncateToInt (number : Float) : Int :=
  if number.abs < 4611686018427387904 then number.toInt64.toInt
  else if (binaryOf number).isFinite then (binaryOf number).truncated
  else 0

/-- The whole part of a number, infinite ones beyond all positions. -/
def toPosition (number : Float) : Int :=
  let beyond : Int := 0x10000000000000000
  if number.isInf then (if number < 0 then -beyond else beyond) else truncateToInt number

/-- A number as an unsigned word of 32 bits. -/
def toWord (number : Float) : Nat := (truncateToInt number % 0x100000000).toNat

/-- An unsigned word of 32 bits as a signed one. -/
def signedWord (word : Nat) : Int := if word < 0x80000000 then word else (word : Int) - 0x100000000

/-- The text of a number. -/
def numberText (number : Float) : String :=
  match exactInt? number with
  | some value => Text.integerText value
  | none =>
    if number.isNaN then "NaN"
    else if number.isInf then (if number < 0 then "-Infinity" else "Infinity")
    else
      let sign := if number < 0 then ['-'] else []
      String.ofList (sign ++ numberLayout.write (binaryOf number).shortest)

/-- The digits of a fraction below one in a base, at most `count`. -/
def fractionDigits (base : Nat) : Nat → Nat → Nat → List Char
  | 0, _, _ => []
  | count + 1, numerator, denominator =>
    if numerator = 0 then []
    else
      let scaled := numerator * base
      Nat.digitChar (scaled / denominator)
        :: fractionDigits base count (scaled % denominator) denominator

/-- The text of a number in a base. -/
def numberTextIn (base : Nat) (number : Float) : String :=
  if base = 10 || number.isNaN || number.isInf then numberText number
  else
    let (top, bottom) := (binaryOf number).ratio
    let digit (value : Nat) : List Char :=
      (Nat.toDigits base value).map fun character =>
        if character == '*' then '?' else character
    let fraction := fractionDigits base 52 (top % bottom) bottom
    String.ofList ((if number < 0 then ['-'] else []) ++ digit (top / bottom)
      ++ (if fraction.isEmpty then [] else '.' :: fraction))

/-- Drop blanks and line ends at both ends. -/
def trimmed (characters : List Char) : List Char :=
  let isSpace (character : Char) : Bool := isBlank character || endsLine character
  ((characters.dropWhile isSpace).reverse.dropWhile isSpace).reverse

/-- Read a decimal number in front of a text; none when there is none. -/
def readDecimal? (characters : List Char) : Option (Float × List Char) :=
  let (whole, rest) := characters.span Json.isDigit
  let (fraction, rest) :=
    match rest with
    | '.' :: behind =>
      let (fraction, behind) := behind.span Json.isDigit
      if whole.isEmpty && fraction.isEmpty then ([], rest) else (fraction, behind)
    | _ => ([], rest)
  match digitsIn? 10 (whole ++ fraction) with
  | none => none
  | some value =>
    let (power, rest) := (readPower? rest).getD (0, rest)
    some (floatOf (Binary64.ofDecimal false value (power - fraction.length)), rest)

/-- Read a signed decimal number or infinity in front of a text. -/
def readSigned? (characters : List Char) : Option (Float × List Char) :=
  let (negative, rest) := Json.powerSign characters
  let word := "Infinity".toList
  let found :=
    if word.isPrefixOf rest then some (1.0 / 0.0, rest.drop word.length) else readDecimal? rest
  found.map fun (value, rest) => (if negative then -value else value, rest)

/-- The number that a text writes; not a number when it writes none. -/
def readNumber (characters : List Char) : Float :=
  let based (base : Nat) (digits : List Char) : Float :=
    match digitsIn? base digits with
    | some value => floatOfInt value
    | none => 0.0 / 0.0
  match trimmed characters with
  | [] => 0
  | '0' :: 'x' :: digits | '0' :: 'X' :: digits => based 16 digits
  | '0' :: 'o' :: digits | '0' :: 'O' :: digits => based 8 digits
  | '0' :: 'b' :: digits | '0' :: 'B' :: digits => based 2 digits
  | characters =>
    match readSigned? characters with
    | some (value, []) => value
    | _ => 0.0 / 0.0

/-- The value of a digit or letter. -/
def digitValue (character : Char) : Nat :=
  if Json.isDigit character then character.toNat - '0'.toNat
  else if character.isAlpha then character.toLower.toNat - 'a'.toNat + 10
  else 99

/-- The whole number in front of a text in a base; base zero is told by the digits. -/
def readWhole (base : Int) (characters : List Char) : Float :=
  let (negative, digits) := Json.powerSign (trimmed characters)
  let hexadecimal :=
    match digits with
    | '0' :: 'x' :: rest | '0' :: 'X' :: rest => some rest
    | _ => none
  let (base, digits) :=
    match hexadecimal with
    | some rest => if base = 0 ∨ base = 16 then (16, rest) else (base, digits)
    | none => (if base = 0 then 10 else base, digits)
  if base < 2 ∨ 36 < base then 0.0 / 0.0
  else
    let digits := digits.takeWhile fun digit => (digitValue digit : Int) < base
    if digits.isEmpty then 0.0 / 0.0
    else
      let value := digits.foldl (fun value digit => value * base.toNat + digitValue digit) 0
      floatOfInt (if negative then -(value : Int) else value)

/-- The unbounded whole number that a text writes. -/
def readBigInt? (characters : List Char) : Option Int :=
  match trimmed characters with
  | [] => some 0
  | '0' :: 'x' :: digits | '0' :: 'X' :: digits => (digitsIn? 16 digits).map Int.ofNat
  | '0' :: 'o' :: digits | '0' :: 'O' :: digits => (digitsIn? 8 digits).map Int.ofNat
  | '0' :: 'b' :: digits | '0' :: 'B' :: digits => (digitsIn? 2 digits).map Int.ofNat
  | characters =>
    let (negative, digits) := Json.powerSign characters
    if digits.all Json.isDigit then
      (digitsIn? 10 digits).map fun value => if negative then -(value : Int) else value
    else none

end ConfigDelivery.Script.JavaScript
