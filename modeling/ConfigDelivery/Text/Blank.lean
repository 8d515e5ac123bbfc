/-!
# Blank characters

The characters with the Unicode property `White_Space`, and trimming by them.
Thresholds, secrets, list entries and header values are trimmed with this class;
it is wider than the ASCII blanks and does not contain the zero-width space.
-/

namespace ConfigDelivery.Text

/-- The closed ranges of code points that have the property `White_Space`. -/
def blankRanges : List (Nat × Nat) :=
  [(0x09, 0x0d), (0x20, 0x20), (0x85, 0x85), (0xa0, 0xa0), (0x1680, 0x1680), (0x2000, 0x200a),
    (0x2028, 0x2029), (0x202f, 0x202f), (0x205f, 0x205f), (0x3000, 0x3000)]

/-- A character is blank when its code point lies in one of `blankRanges`. -/
def isBlank (character : Char) : Bool :=
  blankRanges.any fun (low, high) => low ≤ character.toNat && character.toNat ≤ high

/-- Drop the blanks at the front of a list of characters. -/
def trimLeft (characters : List Char) : List Char :=
  characters.dropWhile isBlank

/-- Drop the blanks at the end of a list of characters. -/
def trimRight (characters : List Char) : List Char :=
  (characters.reverse.dropWhile isBlank).reverse

/-- Drop the blanks at both ends of a text. -/
def trim (text : String) : String :=
  String.ofList (trimRight (trimLeft text.toList))

/-- The part of a text before the first occurrence of a character, and the part after it. -/
def cut? (mark : Char) (characters : List Char) : Option (List Char × List Char) :=
  match characters.span (· != mark) with
  | (_, []) => none
  | (before, _ :: after) => some (before, after)

/-- The pieces of a text between the occurrences of a character; there is always at least one. -/
def splitOn (mark : Char) : List Char → List (List Char)
  | [] => [[]]
  | character :: rest =>
    if character == mark then
      [] :: splitOn mark rest
    else
      match splitOn mark rest with
      | [] => [[character]]
      | piece :: pieces => (character :: piece) :: pieces

/-- A text has text other than blanks. -/
def isFilled (text : String) : Bool :=
  text.toList.any fun character => !isBlank character

end ConfigDelivery.Text
