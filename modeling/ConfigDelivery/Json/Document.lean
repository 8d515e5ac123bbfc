import ConfigDelivery.Decimal.Shortest
import ConfigDelivery.Text.Integer
/-!
# JSON documents as written

A document keeps what its text says before anything is made of it: members in
order and with repetitions, numerals digit by digit, and strings whose escapes
do not add up to text. What a reader ignores can therefore be ill-valued without
harm, while everything it uses is checked when it is used.

The module also holds the one compact printer of the library.
-/

namespace ConfigDelivery.Json

/-- The power of ten behind a numeral's `e`. -/
structure PowerText where
  negative : Bool
  digits : List Char
  deriving DecidableEq, Repr

/-- A number as written: sign, digits before the point, and optionally digits behind it and a
power of ten. -/
structure Numeral where
  negative : Bool
  whole : List Char
  fraction : Option (List Char)
  power : Option PowerText
  deriving DecidableEq, Repr

/-- A string as written: text, or escapes that leave half of a surrogate pair alone. -/
inductive Quoted where
  | text (value : String)
  | loneSurrogate
  deriving DecidableEq, Repr

/-- The text of a string that has one. -/
def Quoted.text? : Quoted → Option String
  | text value => some value
  | loneSurrogate => none

/-- A JSON document. -/
inductive Document where
  | null
  | bool (value : Bool)
  | number (numeral : Numeral)
  | string (value : Quoted)
  | array (items : List Document)
  | object (members : List (Quoted × Document))
  deriving Repr

/-- The layout of numbers in JSON: positional from a hundred-thousandth up to sixteen digits,
always with a point. -/
def numberLayout : Decimal.Layout := ⟨16, -5, true⟩

namespace Numeral

/-- The numeral of a whole number. -/
def ofInt (value : Int) : Numeral :=
  ⟨value < 0, Text.natDigits value.natAbs, none, none⟩

/-- The characters of a numeral. -/
def chars (numeral : Numeral) : List Char :=
  let sign := if numeral.negative then ['-'] else []
  let fraction :=
    match numeral.fraction with
    | none => []
    | some digits => '.' :: digits
  let power :=
    match numeral.power with
    | none => []
    | some ⟨negative, digits⟩ => 'e' :: (if negative then '-' else '+') :: digits
  sign ++ numeral.whole ++ fraction ++ power

/-- The numeral of a finite binary64 number: the fewest digits that read back. -/
def ofBinary64 (number : Decimal.Binary64) : Numeral :=
  if number.mantissa = 0 then ⟨number.isNegative, ['0'], some ['0'], none⟩
  else
    let decimal := number.shortest
    let digits := decimal.digitChars
    let place := decimal.pointPlace
    if numberLayout.firstPlace < place ∧ place ≤ numberLayout.lastPlace then
      if place ≤ 0 then
        ⟨number.isNegative, ['0'], some (Decimal.zeros (-place).toNat ++ digits), none⟩
      else if (digits.length : Int) ≤ place then
        ⟨number.isNegative, digits ++ Decimal.zeros (place - digits.length).toNat, some ['0'], none⟩
      else
        ⟨number.isNegative, digits.take place.toNat, some (digits.drop place.toNat), none⟩
    else
      let exponent := place - 1
      ⟨number.isNegative, digits.take 1, if digits.length ≤ 1 then none else some (digits.drop 1),
        some ⟨exponent < 0, Text.natDigits exponent.natAbs⟩⟩

end Numeral

/-- A hexadecimal digit in lower case. -/
def hexDigit (value : Nat) : Char :=
  if value < 10 then Char.ofNat ('0'.toNat + value) else Char.ofNat ('a'.toNat + (value - 10))

/-- The escape of a control character that has no short one. -/
def unicodeEscape (code : Nat) : List Char :=
  ['\\', 'u', hexDigit (code / 4096 % 16), hexDigit (code / 256 % 16), hexDigit (code / 16 % 16),
    hexDigit (code % 16)]

/-- A character inside quotes. Only quotes, backslashes and control characters are escaped. -/
def escapeChar (character : Char) : List Char :=
  match character with
  | '"' => ['\\', '"']
  | '\\' => ['\\', '\\']
  | '\n' => ['\\', 'n']
  | '\r' => ['\\', 'r']
  | '\t' => ['\\', 't']
  | '\x08' => ['\\', 'b']
  | '\x0c' => ['\\', 'f']
  | other => if other.toNat < 0x20 then unicodeEscape other.toNat else [other]

/-- A text in quotes. -/
def quotedChars (text : String) : List Char :=
  '"' :: (text.toList.flatMap escapeChar ++ ['"'])

/-- The characters of a string as written. -/
def Quoted.chars : Quoted → List Char
  | text value => quotedChars value
  | loneSurrogate => '"' :: (unicodeEscape 0xd800 ++ ['"'])

namespace Document

/-- The string document of a text. -/
def ofString (text : String) : Document := .string (.text text)

/-- The number document of an integer. -/
def ofInt (value : Int) : Document := .number (.ofInt value)

/-- An object whose names are texts. -/
def ofMembers (members : List (String × Document)) : Document :=
  .object (members.map fun (name, value) => (.text name, value))

mutual

/-- The compact text of a document. -/
def chars : Document → List Char
  | .null => ['n', 'u', 'l', 'l']
  | .bool true => ['t', 'r', 'u', 'e']
  | .bool false => ['f', 'a', 'l', 's', 'e']
  | .number numeral => numeral.chars
  | .string value => value.chars
  | .array items => '[' :: (itemChars items ++ [']'])
  | .object members => '{' :: (memberChars members ++ ['}'])

/-- Array items with commas between them. -/
def itemChars : List Document → List Char
  | [] => []
  | [item] => chars item
  | item :: next :: rest => chars item ++ ',' :: itemChars (next :: rest)

/-- Object members with commas between them. -/
def memberChars : List (Quoted × Document) → List Char
  | [] => []
  | [(name, value)] => name.chars ++ ':' :: chars value
  | (name, value) :: next :: rest =>
    name.chars ++ ':' :: (chars value ++ ',' :: memberChars (next :: rest))

end

/-- The compact text of a document. -/
def render (document : Document) : String :=
  String.ofList document.chars

end Document

end ConfigDelivery.Json
