import ConfigDelivery.Json.Reader
/-!
# JSON values

The value that a document stands for: numbers in the two ranges that are kept
apart (whole numbers of at most 64 bits, and binary64 numbers for all others),
strings that are text, and objects as maps from names in ascending order. A
document denotes no value when a number is out of range, a string is not text,
or arrays and objects are nested too deep.
-/

namespace ConfigDelivery.Json

open ConfigDelivery.Decimal (Binary64)

/-- The whole numbers that are kept exactly. -/
def ExactRange (value : Int) : Prop := -0x8000000000000000 ≤ value ∧ value < 0x10000000000000000

instance (value : Int) : Decidable (ExactRange value) :=
  inferInstanceAs (Decidable (_ ∧ _))

/-- A JSON number. -/
inductive Number where
  | integer (value : Int) (exact : ExactRange value)
  | float (value : Binary64)
  deriving DecidableEq, Repr

/-- A JSON value; the members of an object have distinct names in ascending order. -/
inductive Value where
  | null
  | bool (value : Bool)
  | number (value : Number)
  | string (value : String)
  | array (items : List Value)
  | object (members : List (String × Value))
  deriving Repr, Inhabited

/-- The members of an object of values. -/
abbrev Members := List (String × Value)

/-- The deepest nesting of arrays and objects that a text may have. -/
def depthLimit : Nat := 127

namespace Numeral

/-- The number that a list of digits writes. -/
def digitsValue (digits : List Char) : Nat :=
  digits.foldl (fun value digit => value * 10 + (digit.toNat - '0'.toNat)) 0

/-- Collect digits into a significand while it stays below `2 ^ 64`; the rest is counted only. -/
def takeSignificand : Nat → List Char → Nat × Nat
  | significand, [] => (significand, 0)
  | significand, digit :: rest =>
    let next := significand * 10 + (digit.toNat - '0'.toNat)
    if next < 0x10000000000000000 then
      takeSignificand next rest
    else (significand, rest.length + 1)

/-- Divide by `10 ^ 308` while the power of ten is below that. -/
def scaleDown : Nat → Binary64 → Int → Binary64 × Int
  | 0, number, power => (number, power)
  | fuel + 1, number, power =>
    if power < -308 ∧ number.mantissa ≠ 0 then
      scaleDown fuel (number.div (.ofDecimal false 1 308)) (power + 308)
    else (number, power)

/-- The binary64 number of a significand and a power of ten: the significand is rounded, and then
its product with, or quotient by, a power of ten. None when that is too large. -/
def scaled? (negative : Bool) (significand : Nat) (power : Int) : Option Binary64 :=
  let number := Binary64.ofRatio negative significand 1
  if number.mantissa = 0 then some number
  else if 308 < power then none
  else if 0 ≤ power then
    let product := number.mul (.ofDecimal false 1 power)
    if product.isFinite then some product else none
  else
    let (number, power) := scaleDown 4 number power
    if number.mantissa = 0 then some number
    else some (number.div (.ofDecimal false 1 (-power)))

/-- The binary64 number of a numeral that is not kept exactly; none when it is too large. -/
def float? (numeral : Numeral) : Option Binary64 :=
  let (significand, dropped) := takeSignificand 0 numeral.whole
  let (significand, power) :=
    match numeral.fraction with
    | none => (significand, (dropped : Int))
    | some digits =>
      let (significand', dropped') := takeSignificand significand digits
      (significand', dropped - (digits.length - dropped' : Nat))
  match numeral.power with
  | none => scaled? numeral.negative significand power
  | some ⟨below, digits⟩ =>
    let exponent := digitsValue digits
    if 0x80000000 ≤ exponent then
      if significand ≠ 0 ∧ !below then none else some (.zero numeral.negative)
    else scaled? numeral.negative significand (if below then power - exponent else power + exponent)

/-- The number that a numeral writes; none when it is too large. A zero with a minus sign is the
binary64 number of that sign. -/
def number? (numeral : Numeral) : Option Number :=
  if numeral.fraction.isNone && numeral.power.isNone then
    let magnitude : Int := digitsValue numeral.whole
    let value := if numeral.negative then -magnitude else magnitude
    if exact : ExactRange value then
      if numeral.negative ∧ value = 0 then some (.float (.zero true))
      else some (.integer value exact)
    else numeral.float?.map .float
  else numeral.float?.map .float

end Numeral

namespace Number

/-- The numeral of a number. -/
def numeral : Number → Numeral
  | integer value _ => .ofInt value
  | float value => .ofBinary64 value

/-- Equal numbers of the same kind; a whole number and a binary64 number always differ. -/
def same : Number → Number → Bool
  | integer left _, integer right _ => left = right
  | float left, float right => left.sameValue right
  | _, _ => false

end Number

namespace Value

/-- Set the member of a name in a list with names in ascending order. -/
def insert (name : String) (value : Value) : Members → Members
  | [] => [(name, value)]
  | (other, old) :: rest =>
    if name < other then (name, value) :: (other, old) :: rest
    else if name = other then (name, value) :: rest
    else (other, old) :: insert name value rest

/-- The member of a name. -/
def find? (name : String) : Members → Option Value
  | [] => none
  | (other, value) :: rest => if other = name then some value else find? name rest

mutual

/-- The document of a value. -/
def document : Value → Document
  | .null => .null
  | .bool value => .bool value
  | .number (.integer value _) => .number (.ofInt value)
  | .number (.float value) => if value.isFinite then .number (.ofBinary64 value) else .null
  | .string value => .ofString value
  | .array items => .array (itemDocuments items)
  | .object members => .object (memberDocuments members)

/-- The documents of array items. -/
def itemDocuments : List Value → List Document
  | [] => []
  | item :: rest => document item :: itemDocuments rest

/-- The documents of object members. -/
def memberDocuments : List (String × Value) → List (Quoted × Document)
  | [] => []
  | (name, value) :: rest => (.text name, document value) :: memberDocuments rest

end

/-- The compact text of a value. -/
def render (value : Value) : String := value.document.render

mutual

/-- Equality of values, numbers by `Number.same`. -/
def same : Value → Value → Bool
  | .null, .null => true
  | .bool left, .bool right => left == right
  | .number left, .number right => left.same right
  | .string left, .string right => left == right
  | .array left, .array right => sameItems left right
  | .object left, .object right => sameMembers left right
  | _, _ => false

/-- Equality of array items. -/
def sameItems : List Value → List Value → Bool
  | [], [] => true
  | left :: lefts, right :: rights => same left right && sameItems lefts rights
  | _, _ => false

/-- Equality of object members. -/
def sameMembers : List (String × Value) → List (String × Value) → Bool
  | [], [] => true
  | (name, left) :: lefts, (name', right) :: rights =>
    name == name' && same left right && sameMembers lefts rights
  | _, _ => false

end

end Value

namespace Document

mutual

/-- The value of a document in which at most `depth` arrays and objects are nested. -/
def value? : Nat → Document → Option Value
  | _, .null => some .null
  | _, .bool value => some (.bool value)
  | _, .number numeral => numeral.number?.map .number
  | _, .string text => text.text?.map .string
  | 0, .array _ => none
  | 0, .object _ => none
  | depth + 1, .array items => (itemValues? depth items).map .array
  | depth + 1, .object members => (memberValues? depth members []).map .object

/-- The values of array items. -/
def itemValues? : Nat → List Document → Option (List Value)
  | _, [] => some []
  | depth, item :: rest => do
    let value ← value? depth item
    return value :: (← itemValues? depth rest)

/-- Add object members to those already read; a later member of one name replaces an earlier. -/
def memberValues? : Nat → List (Quoted × Document) → Members → Option Members
  | _, [], done => some done
  | depth, (name, item) :: rest, done => do
    let name ← name.text?
    let value ← value? depth item
    memberValues? depth rest (Value.insert name value done)

end

end Document

/-- Read a text as a value. -/
def readValue? (text : String) : Option Value :=
  read? text >>= Document.value? depthLimit

/-- Read a text as the members of an object. -/
def readMembers? (text : String) : Option Members :=
  match readValue? text with
  | some (.object members) => some members
  | _ => none

end ConfigDelivery.Json
