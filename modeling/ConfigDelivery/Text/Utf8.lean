/-!
# UTF-8

Bytes as text. What is no text is replaced by a mark: every longest run of bytes
that starts like a character, and every other byte that is out of place. The usual
mark is the replacement character.
-/

namespace ConfigDelivery.Text

/-- The character in the place of bytes that are no text. -/
def replacementChar : Char := Char.ofNat 0xfffd

/-- A character of which some bytes have been read: what they say of its code point, how many bytes
are still to come, and the bounds of the next one. -/
structure Begun where
  value : Nat
  missing : Nat
  low : Nat
  high : Nat

/-- What a first byte begins, if it begins anything. The bounds of the second byte shut out code
points that have a shorter form, that are surrogates, or that are too large. -/
def Begun.start? (byte : Nat) : Option Begun :=
  if 0xc2 ≤ byte ∧ byte ≤ 0xdf then some ⟨byte - 0xc0, 1, 0x80, 0xbf⟩
  else if byte = 0xe0 then some ⟨0, 2, 0xa0, 0xbf⟩
  else if byte = 0xed then some ⟨0xd, 2, 0x80, 0x9f⟩
  else if 0xe1 ≤ byte ∧ byte ≤ 0xef then some ⟨byte - 0xe0, 2, 0x80, 0xbf⟩
  else if byte = 0xf0 then some ⟨0, 3, 0x90, 0xbf⟩
  else if byte = 0xf4 then some ⟨4, 3, 0x80, 0x8f⟩
  else if 0xf1 ≤ byte ∧ byte ≤ 0xf3 then some ⟨byte - 0xf0, 3, 0x80, 0xbf⟩
  else none

/-- A byte on its own: the characters that it ends, and the one that it begins. -/
def takeFirst (mark : List Char) (byte : Nat) : List Char × Option Begun :=
  if byte < 0x80 then ([Char.ofNat byte], none)
  else
    match Begun.start? byte with
    | some begun => ([], some begun)
    | none => (mark, none)

/-- A byte after what has been read of a character. -/
def takeNext (mark : List Char) (begun : Begun) (byte : Nat) : List Char × Option Begun :=
  if begun.low ≤ byte ∧ byte ≤ begun.high then
    let value := begun.value * 0x40 + (byte - 0x80)
    if begun.missing ≤ 1 then ([Char.ofNat value], none)
    else ([], some ⟨value, begun.missing - 1, 0x80, 0xbf⟩)
  else
    let (characters, begun) := takeFirst mark byte
    (mark ++ characters, begun)

/-- The text of bytes, after what has been read of a character. -/
def decodeFrom (mark : List Char) : Option Begun → List UInt8 → List Char
  | none, [] => []
  | some _, [] => mark
  | begun, byte :: rest =>
    let (characters, begun) :=
      match begun with
      | none => takeFirst mark byte.toNat
      | some begun => takeNext mark begun byte.toNat
    characters ++ decodeFrom mark begun rest

/-- The text of bytes, with a mark for what is no text. -/
def decodeMarking (mark : List Char) (bytes : List UInt8) : String :=
  String.ofList (decodeFrom mark none bytes)

/-- The text of bytes, with replacement characters for what is no text. -/
def decodeUtf8 (bytes : List UInt8) : String := decodeMarking [replacementChar] bytes

end ConfigDelivery.Text
