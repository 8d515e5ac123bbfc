/-!
# Decimal integers of bounded range

Reading an optional sign and ASCII digits into an integer between two bounds.
The digits are folded one by one from the left, so of two faults the leftmost
wins: a text that leaves the range before its first foreign character is out of
range, and one with a foreign character before that is malformed.
-/

namespace ConfigDelivery.Text

/-- The integers from `low` to `high`; a minus sign is read only when `low` is negative. -/
structure IntegerRange where
  low : Int
  high : Int

namespace IntegerRange

/-- The range of a signed 64-bit word. -/
def signed64 : IntegerRange := ⟨-0x8000000000000000, 0x7fffffffffffffff⟩

/-- The range of an unsigned 64-bit word. -/
def unsigned64 : IntegerRange := ⟨0, 0xffffffffffffffff⟩

/-- The range of an unsigned 32-bit word. -/
def unsigned32 : IntegerRange := ⟨0, 0xffffffff⟩

end IntegerRange

/-- Why a text is not an integer of a range. -/
inductive IntegerFault where
  | empty
  | foreignCharacter
  | aboveRange
  | belowRange
  deriving DecidableEq, Repr

/-- The wording of an integer fault. -/
def IntegerFault.message : IntegerFault → String
  | empty => "cannot parse integer from empty string"
  | foreignCharacter => "invalid digit found in string"
  | aboveRange => "number too large to fit in target type"
  | belowRange => "number too small to fit in target type"

/-- The value of an ASCII decimal digit. -/
def digit? (character : Char) : Option Nat :=
  if '0' ≤ character ∧ character ≤ '9' then some (character.toNat - '0'.toNat) else none

/-- Append digits to a number that is built upwards, up to `high`. -/
def foldUp (high : Int) : Int → List Char → Except IntegerFault Int
  | value, [] => .ok value
  | value, character :: rest =>
    match digit? character with
    | none => .error .foreignCharacter
    | some digit =>
      let next := value * 10 + digit
      if next ≤ high then foldUp high next rest else .error .aboveRange

/-- Append digits to a number that is built downwards, down to `low`. -/
def foldDown (low : Int) : Int → List Char → Except IntegerFault Int
  | value, [] => .ok value
  | value, character :: rest =>
    match digit? character with
    | none => .error .foreignCharacter
    | some digit =>
      let next := value * 10 - digit
      if low ≤ next then foldDown low next rest else .error .belowRange

/-- Read a text as an integer of a range: one optional sign, then at least one digit. A sign
that the range has no use for, or that nothing follows, is a foreign character. -/
def readInteger (range : IntegerRange) (text : String) : Except IntegerFault Int :=
  match text.toList with
  | [] => .error .empty
  | ['+'] | ['-'] => .error .foreignCharacter
  | '+' :: digits => foldUp range.high 0 digits
  | '-' :: digits =>
    if range.low < 0 then foldDown range.low 0 digits else .error .foreignCharacter
  | digits => foldUp range.high 0 digits

/-- The decimal digits of a natural number, most significant first. -/
def natDigits (value : Nat) : List Char :=
  Nat.toDigits 10 value

/-- The decimal text of an integer, with a minus sign when it is negative. -/
def integerChars (value : Int) : List Char :=
  if value < 0 then '-' :: natDigits value.natAbs else natDigits value.natAbs

/-- The decimal text of an integer. -/
def integerText (value : Int) : String :=
  String.ofList (integerChars value)

end ConfigDelivery.Text
