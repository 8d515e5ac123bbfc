import ConfigDelivery.Text.Utf8
import Mathlib.Tactic.IntervalCases
/-!
# Text is read back from its bytes

The bytes of a text decode to that text, whatever its characters are. A character of more than one
byte has no byte below 128, so the bytes below 128 are the characters below 128: what separates
lines among the bytes separates them in the text.
-/

namespace ConfigDelivery.Text

/-- The bytes of a text. -/
def encodeUtf8 (text : String) : List UInt8 := text.toUTF8.data.toList

/-- A text is encoded character by character. -/
theorem encodeUtf8_ofList (characters : List Char) :
    encodeUtf8 (String.ofList characters) = characters.flatMap String.utf8EncodeChar := by
  simp [encodeUtf8, List.utf8Encode]

/-- Texts are encoded one after the other. -/
theorem encodeUtf8_append (left right : String) :
    encodeUtf8 (left ++ right) = encodeUtf8 left ++ encodeUtf8 right := by
  simp [encodeUtf8]

/-- Listing bytes from an index on puts them behind those listed so far, which are in reverse. -/
theorem toList_loop_eq (bytes : ByteArray) (index : Nat) (listed : List UInt8) :
    ByteArray.toList.loop bytes index listed = listed.reverse ++ bytes.data.toList.drop index := by
  fun_induction ByteArray.toList.loop bytes index listed with
  | case1 index listed inside step =>
    have inside : index < bytes.data.toList.length := inside
    have byte_eq : bytes.get! index = bytes.data.toList[index] := by
      simp [ByteArray.get!, getElem!_pos bytes.data index (by simpa using inside)]
    rw [step, byte_eq, List.reverse_cons, List.append_assoc, List.drop_eq_getElem_cons inside,
      List.singleton_append]
  | case2 index listed outside =>
    have outside : bytes.data.toList.length ≤ index := Nat.le_of_not_lt outside
    rw [List.drop_eq_nil_of_le outside, List.append_nil]

/-- The bytes of a text are its encoding. -/
theorem toList_toUTF8 (text : String) : text.toUTF8.toList = encodeUtf8 text := by
  rw [ByteArray.toList, toList_loop_eq]
  rfl

/-- The bytes of a code point, by its size. -/
inductive Encoded (code : Nat) : List UInt8 → Prop where
  | one (small : code < 0x80) : Encoded code [UInt8.ofNat code]
  | two (large : 0x80 ≤ code) (small : code < 0x800) :
      Encoded code [UInt8.ofNat (code / 64 % 32 + 192), UInt8.ofNat (code % 64 + 128)]
  | three (large : 0x800 ≤ code) (small : code < 0x10000) :
      Encoded code [UInt8.ofNat (code / 4096 % 16 + 224), UInt8.ofNat (code / 64 % 64 + 128),
        UInt8.ofNat (code % 64 + 128)]
  | four (large : 0x10000 ≤ code) :
      Encoded code [UInt8.ofNat (code / 262144 % 8 + 240), UInt8.ofNat (code / 4096 % 64 + 128),
        UInt8.ofNat (code / 64 % 64 + 128), UInt8.ofNat (code % 64 + 128)]

/-- A character is encoded by the bytes of its code. -/
theorem encoded_utf8EncodeChar (character : Char) :
    Encoded character.toNat (String.utf8EncodeChar character) := by
  have same : character.val.toNat = character.toNat := rfl
  simp only [String.utf8EncodeChar, same]
  by_cases one : character.toNat ≤ 0x7f
  · rw [if_pos one]
    exact .one (by omega)
  · rw [if_neg one]
    by_cases two : character.toNat ≤ 0x7ff
    · rw [if_pos two]
      exact .two (by omega) (by omega)
    · rw [if_neg two]
      by_cases three : character.toNat ≤ 0xffff
      · rw [if_pos three]
        exact .three (by omega) (by omega)
      · rw [if_neg three]
        exact .four (by omega)

/-- A number below 256 is a byte. -/
theorem toNat_ofNat_byte {value : Nat} (small : value < 256) :
    (UInt8.ofNat value).toNat = value := by
  simpa using Nat.mod_eq_of_lt small

/-- A byte below 128 is a character of its own. -/
theorem toNat_of_mem_utf8EncodeChar {character : Char} {byte : UInt8}
    (mem : byte ∈ String.utf8EncodeChar character) (small : byte.toNat < 0x80) :
    character.toNat = byte.toNat := by
  have encoded := encoded_utf8EncodeChar character
  generalize String.utf8EncodeChar character = bytes at mem encoded
  have large (value : Nat) (same : byte = UInt8.ofNat (value + 128)) (byteSized : value < 128) :
      False := by
    rw [same, toNat_ofNat_byte (by omega)] at small
    omega
  cases encoded with
  | one short => rw [List.mem_singleton.mp mem, toNat_ofNat_byte (by omega)]
  | two =>
    simp only [List.mem_cons, List.not_mem_nil, or_false] at mem
    rcases mem with same | same
    · exact (large (character.toNat / 64 % 32 + 64) same (by omega)).elim
    · exact (large _ same (by omega)).elim
  | three =>
    simp only [List.mem_cons, List.not_mem_nil, or_false] at mem
    rcases mem with same | same | same
    · exact (large (character.toNat / 4096 % 16 + 96) same (by omega)).elim
    · exact (large _ same (by omega)).elim
    · exact (large _ same (by omega)).elim
  | four =>
    simp only [List.mem_cons, List.not_mem_nil, or_false] at mem
    rcases mem with same | same | same | same
    · exact (large (character.toNat / 262144 % 8 + 112) same (by omega)).elim
    · exact (large _ same (by omega)).elim
    · exact (large _ same (by omega)).elim
    · exact (large _ same (by omega)).elim

/-! ## Decoding -/

variable {mark : List Char}

/-- A first byte begins a character of more bytes. -/
theorem decodeFrom_first {lead : Nat} {begun : Begun} (small : lead < 256)
    (starts : Begun.start? lead = some begun) (rest : List UInt8) :
    decodeFrom mark none (UInt8.ofNat lead :: rest) = decodeFrom mark (some begun) rest := by
  have large : ¬ lead < 0x80 := by
    intro ascii
    have nothing : Begun.start? lead = none := by
      unfold Begun.start?
      iterate 7 rw [if_neg (by omega)]
    rw [nothing] at starts
    cases starts
  have taken : takeFirst mark lead = ([], some begun) := by rw [takeFirst, if_neg large, starts]
  simp only [decodeFrom, toNat_ofNat_byte small, taken, List.nil_append]

/-- A byte within the bounds goes on with a character of which more bytes are to come. -/
theorem decodeFrom_more {value missing low high piece : Nat} (small : piece < 64)
    (above : low ≤ piece + 128) (below : piece + 128 ≤ high) (rest : List UInt8) :
    decodeFrom mark (some ⟨value, missing + 2, low, high⟩) (UInt8.ofNat (piece + 128) :: rest)
      = decodeFrom mark (some ⟨value * 64 + piece, missing + 1, 0x80, 0xbf⟩) rest := by
  have taken : takeNext mark ⟨value, missing + 2, low, high⟩ (piece + 128)
      = ([], some ⟨value * 64 + piece, missing + 1, 0x80, 0xbf⟩) := by
    simp [takeNext, above, below]
  simp only [decodeFrom, toNat_ofNat_byte (show piece + 128 < 256 by omega), taken,
    List.nil_append]

/-- The last byte of a character ends it. -/
theorem decodeFrom_last {value low high piece : Nat} (small : piece < 64)
    (above : low ≤ piece + 128) (below : piece + 128 ≤ high) (rest : List UInt8) :
    decodeFrom mark (some ⟨value, 1, low, high⟩) (UInt8.ofNat (piece + 128) :: rest)
      = Char.ofNat (value * 64 + piece) :: decodeFrom mark none rest := by
  have taken : takeNext mark ⟨value, 1, low, high⟩ (piece + 128)
      = ([Char.ofNat (value * 64 + piece)], none) := by
    simp [takeNext, above, below]
  simp only [decodeFrom, toNat_ofNat_byte (show piece + 128 < 256 by omega), taken,
    List.singleton_append]

theorem start?_two {lead : Nat} (large : 2 ≤ lead) (small : lead < 32) :
    Begun.start? (lead + 192) = some ⟨lead, 1, 0x80, 0xbf⟩ := by
  rw [Begun.start?, if_pos (by omega), Nat.add_sub_cancel]

theorem start?_three {lead : Nat} (small : lead < 16) :
    Begun.start? (lead + 224)
      = some ⟨lead, 2, if lead = 0 then 0xa0 else 0x80, if lead = 0xd then 0x9f else 0xbf⟩ := by
  interval_cases lead <;> rfl

theorem start?_four {lead : Nat} (small : lead < 5) :
    Begun.start? (lead + 240)
      = some ⟨lead, 3, if lead = 0 then 0x90 else 0x80, if lead = 4 then 0x8f else 0xbf⟩ := by
  interval_cases lead <;> rfl

/-- A character is read back from its bytes. -/
theorem decodeFrom_utf8EncodeChar (character : Char) (rest : List UInt8) :
    decodeFrom mark none (String.utf8EncodeChar character ++ rest)
      = character :: decodeFrom mark none rest := by
  have encoded := encoded_utf8EncodeChar character
  have valid : character.toNat < 0xd800 ∨ 0xdfff < character.toNat ∧ character.toNat < 0x110000 :=
    character.valid
  have whole {code : Nat} (same : code = character.toNat) : Char.ofNat code = character := by
    rw [same, Char.ofNat_toNat]
  generalize String.utf8EncodeChar character = bytes at encoded
  cases encoded with
  | one small =>
    have taken : takeFirst mark character.toNat = ([character], none) := by
      rw [takeFirst, if_pos small, Char.ofNat_toNat]
    simp only [List.singleton_append, decodeFrom, toNat_ofNat_byte
      (show character.toNat < 256 by omega), taken]
  | two large small =>
    simp only [List.cons_append, List.nil_append]
    rw [decodeFrom_first (by omega) (start?_two (by omega) (by omega)),
      decodeFrom_last (by omega) (by omega) (by omega), whole (by omega)]
  | three large small =>
    simp only [List.cons_append, List.nil_append]
    rw [decodeFrom_first (by omega) (start?_three (by omega)),
      decodeFrom_more (by omega) (by split <;> omega) (by split <;> omega),
      decodeFrom_last (by omega) (by omega) (by omega), whole (by omega)]
  | four large =>
    simp only [List.cons_append, List.nil_append]
    rw [decodeFrom_first (by omega) (start?_four (by omega)),
      decodeFrom_more (by omega) (by split <;> omega) (by split <;> omega),
      decodeFrom_more (by omega) (by omega) (by omega),
      decodeFrom_last (by omega) (by omega) (by omega), whole (by omega)]

/-- A text is read back from its bytes, and nothing is marked in it. -/
theorem decodeMarking_flatMap (mark characters : List Char) :
    decodeMarking mark (characters.flatMap String.utf8EncodeChar) = String.ofList characters := by
  have decoded : decodeFrom mark none (characters.flatMap String.utf8EncodeChar) = characters := by
    induction characters with
    | nil => rfl
    | cons character rest ih => rw [List.flatMap_cons, decodeFrom_utf8EncodeChar, ih]
  rw [decodeMarking, decoded]

/-- The encoding of a text is decoded as that text. -/
theorem decodeUtf8_flatMap (characters : List Char) :
    decodeUtf8 (characters.flatMap String.utf8EncodeChar) = String.ofList characters :=
  decodeMarking_flatMap ..

end ConfigDelivery.Text
