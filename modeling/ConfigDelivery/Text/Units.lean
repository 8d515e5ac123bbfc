/-!
# Texts of UTF-16 units

A text as a row of 16-bit units. Characters beyond the first plane take two, a
surrogate pair; half of a pair may stand alone, and then the units are no text.
-/

namespace ConfigDelivery.Text

/-- A row of UTF-16 units. -/
structure Units where
  units : Array UInt16
  deriving DecidableEq, Repr, Inhabited

namespace Units

/-- The units of a character. -/
def ofCode (code : Nat) : List UInt16 :=
  if code < 0x10000 then [code.toUInt16]
  else [(0xd800 + (code - 0x10000) / 0x400).toUInt16, (0xdc00 + (code - 0x10000) % 0x400).toUInt16]

/-- The units of a list of characters. -/
def ofChars (characters : List Char) : Units :=
  ⟨(characters.flatMap fun character => ofCode character.toNat).toArray⟩

/-- The units of a text. -/
def ofString (text : String) : Units := ofChars text.toList

/-- The first half of a surrogate pair. -/
def isLead (unit : UInt16) : Bool := 0xd800 ≤ unit && unit ≤ 0xdbff

/-- The second half of a surrogate pair. -/
def isTrail (unit : UInt16) : Bool := 0xdc00 ≤ unit && unit ≤ 0xdfff

/-- The code points of a row of units; half of a pair that stands alone is one too. -/
def codesOf : List UInt16 → List Nat
  | [] => []
  | [unit] => [unit.toNat]
  | first :: second :: rest =>
    if isLead first && isTrail second then
      (0x10000 + (first.toNat - 0xd800) * 0x400 + (second.toNat - 0xdc00)) :: codesOf rest
    else first.toNat :: codesOf (second :: rest)

/-- The code points of a row of units. -/
def codes (text : Units) : List Nat := codesOf text.units.toList

/-- Half of a surrogate pair. -/
def isSurrogate (code : Nat) : Bool := 0xd800 ≤ code && code ≤ 0xdfff

/-- The character of a code point; the replacement character for half of a pair. -/
def charOf (code : Nat) : Char := if isSurrogate code then '\ufffd' else Char.ofNat code

/-- The text of a row of units; halves of pairs that stand alone are replaced. -/
def toText (text : Units) : String := String.ofList (text.codes.map charOf)

/-- The text of a row of units; none when half of a pair stands alone. -/
def toText? (text : Units) : Option String :=
  if text.codes.any isSurrogate then none else some text.toText

/-- The characters of a row of units. -/
def chars (text : Units) : List Char := text.codes.map charOf

/-- The number of units. -/
def size (text : Units) : Nat := text.units.size

/-- No units. -/
def isEmpty (text : Units) : Bool := text.units.isEmpty

/-- One row of units behind another. -/
def append (left right : Units) : Units := ⟨left.units ++ right.units⟩

instance : Append Units := ⟨append⟩

/-- The units from one position up to another. -/
def slice (text : Units) (start stop : Nat) : Units := ⟨text.units.extract start stop⟩

/-- A unit alone. -/
def singleton (unit : UInt16) : Units := ⟨#[unit]⟩

/-- Order of rows by their first units that differ. -/
def precedes (left right : Units) : Bool := left.units.toList < right.units.toList

/-- A part stands at a position. -/
def hasAt (text part : Units) (position : Nat) : Bool :=
  part.size + position ≤ text.size
    && (text.slice position (position + part.size)).units == part.units


/-- The first position from `start` on at which a part stands. -/
def find? (text part : Units) (start : Nat) : Option Nat :=
  ((List.range (text.size + 1)).drop start).find? (text.hasAt part)

/-- The last position up to `stop` at which a part stands. -/
def findLast? (text part : Units) (stop : Nat) : Option Nat :=
  (List.range (min stop text.size + 1)).reverse.find? (text.hasAt part)

end Units

end ConfigDelivery.Text
