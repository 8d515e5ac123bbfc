import ConfigDelivery.Json.Decode
import ConfigDelivery.Proofs.Json.Recognition
import ConfigDelivery.Proofs.Text.Utf8
import ConfigDelivery.Record.Codec
/-!
# JSON from bytes

The bytes of a text are read as the text. Bytes that are no text are shown to the reader as a mark.
In a string the mark is a letter and half of a pair, which no text stands for, whatever is written
around it: who ignores the string is not concerned, and who needs its text has none. Everywhere else
the mark is refused, as no token begins or goes on with its letter.
-/

namespace ConfigDelivery.Json

open Decoder (unreadable)

/-- The bytes of a text are read as the text is. -/
theorem Decoder.readBytes_flatMap {Result : Type} (decoder : Decoder Result)
    (characters : List Char) :
    decoder.readBytes (characters.flatMap String.utf8EncodeChar)
      = decoder.readText (String.ofList characters) := by
  rw [readBytes, Text.decodeMarking_flatMap]

/-! ## In a string -/

/-- The parts of a string that the mark writes. -/
def unreadableParts : List StringPart := [.character 'x', .unit 0xdc00]

theorem writesParts_unreadable : WritesParts unreadableParts unreadable := by
  have half : WritesUnit 0xdc00 ['d', 'c', '0', '0'] := by
    have digits : 0xdc00 = ((13 * 16 + 12) * 16 + 0) * 16 + 0 := rfl
    rw [digits]
    exact .unit rfl rfl rfl rfl
  have letter : StringPart.Writes (.character 'x') ['x'] :=
    .plain (by decide) (by decide) (by decide)
  exact .cons letter (.cons (.unit half) .nil)

/-- A unit that no unit follows is half of a pair that stands alone, or a character. -/
theorem StringPart.decode_unit {code : Nat} {rest : List StringPart}
    (noUnit : ∀ trail others, rest = .unit trail :: others → False) :
    decode (.unit code :: rest) =
      if isLeadSurrogate code || isTrailSurrogate code then none
      else (decode rest).map (Char.ofNat code :: ·) := by
  rw [decode]
  exact noUnit

/-- Half of a pair behind a letter stands alone, whatever is written around the two. -/
theorem StringPart.decode_unreadable (before after : List StringPart) :
    decode (before ++ (unreadableParts ++ after)) = none := by
  -- Where a unit is the last part before the mark, the letter keeps it from being paired.
  have noUnit {rest : List StringPart}
      (noUnit : ∀ trail others, rest = .unit trail :: others → False) (trail : Nat)
      (others : List StringPart) :
      rest ++ (unreadableParts ++ after) = .unit trail :: others → False := by
    intro same
    cases rest with
    | nil => cases same
    | cons part parts =>
      obtain rfl : part = .unit trail := List.head_eq_of_cons_eq same
      exact noUnit trail parts rfl
  fun_induction decode before with
  | case1 =>
    cases after with
    | nil => rfl
    | cons part rest => cases part <;> rfl
  | case2 value rest ih => rw [List.cons_append, decode, ih, Option.map_none]
  | case3 lead trail rest pair ih =>
    rw [List.cons_append, List.cons_append, decode, if_pos pair, ih, Option.map_none]
  | case4 lead trail rest pair alone =>
    rw [List.cons_append, List.cons_append, decode, if_neg pair, if_pos alone]
  | case5 lead trail rest pair alone ih =>
    rw [List.cons_append, List.cons_append, decode, if_neg pair, if_neg alone,
      ← List.cons_append, ih, Option.map_none]
  | case6 code rest last alone =>
    rw [List.cons_append, decode_unit (noUnit last), if_pos alone]
  | case7 code rest last alone ih =>
    rw [List.cons_append, decode_unit (noUnit last), if_neg alone, ih, Option.map_none]

/-- A string with a mark somewhere in it is read up to its end, and has no text. -/
theorem readString?_unreadable {before after : List StringPart} {front back : List Char}
    (frontWritten : WritesParts before front) (backWritten : WritesParts after back)
    (rest : List Char) :
    readString? (front ++ (unreadable ++ back) ++ '"' :: rest) = some (.loneSurrogate, rest) := by
  have written :
      Quoted.Writes .loneSurrogate ('"' :: (front ++ (unreadable ++ back) ++ ['"'])) := by
    have quoted :=
      Quoted.Writes.quoted (frontWritten.append (writesParts_unreadable.append backWritten))
    rwa [Quoted.ofParts, StringPart.decode_unreadable] at quoted
  have read := readString?_append written rest
  rwa [List.append_assoc, List.singleton_append] at read

-- Of the object with a byte in a string under a name that no request reads, and of that string.
example : (ConfigRequest.decoder.readBytes
    [0x7b, 0x22, 0x78, 0x22, 0x3a, 0x22, 0xff, 0x22, 0x7d]).isSome = true := by
  decide +kernel

example : Decoder.string.readBytes [0x22, 0xff, 0x22] = none := by decide +kernel

/-! ## Elsewhere -/

/-- The mark has no digit, so it does not complete an escape. -/
theorem readHex4?_unreadable {digits : List Char} (few : digits.length < 4) (rest : List Char) :
    readHex4? (digits ++ (unreadable ++ rest)) = none := by
  have letter : hexValue? 'x' = none := rfl
  match digits, few with
  | [], _ => rfl
  | [first], _ =>
    cases read : hexValue? first <;> simp [readHex4?, unreadable, letter, read]
  | [first, second], _ =>
    cases read : hexValue? first <;> cases read' : hexValue? second <;>
      simp [readHex4?, unreadable, letter, read, read']
  | [first, second, third], _ =>
    cases read : hexValue? first <;> cases read' : hexValue? second <;>
      cases read'' : hexValue? third <;>
        simp [readHex4?, unreadable, letter, read, read', read'']

/-- Where a value or a name should come the mark is out of place, and so it is behind a value,
behind a backslash and among the digits of an escape. -/
theorem unreadable_misplaced (rest : List Char) :
    (∀ fuel open_, readFrom? fuel .value open_ (unreadable ++ rest) = none) ∧
    (∀ fuel document frame open_,
      readFrom? fuel (.afterValue document) (frame :: open_) (unreadable ++ rest) = none) ∧
    readName? (unreadable ++ rest) = none ∧ readEscape? (unreadable ++ rest) = none ∧
    ∀ digits : List Char, digits.length < 4 →
      readEscape? ('u' :: (digits ++ (unreadable ++ rest))) = none := by
  refine ⟨fun fuel open_ => ?_, fun fuel document frame open_ => ?_, rfl, rfl,
    fun digits few => ?_⟩
  · cases fuel <;> rfl
  · cases fuel <;> cases frame <;> rfl
  · rw [readEscape?, readHex4?_unreadable few]
    rfl

end ConfigDelivery.Json
