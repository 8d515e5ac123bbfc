import ConfigDelivery.Proofs.Json.Reading
/-!
# Printed documents are read back

The compact printer writes one of the texts of a document, as long as the numerals of the document
are those of the grammar, so the reader inverts the printer.
-/

namespace ConfigDelivery.Json

/-- A numeral that the grammar admits. -/
structure Numeral.IsWritten (numeral : Numeral) : Prop where
  whole : AreWhole numeral.whole
  fraction : ∀ digits, numeral.fraction = some digits → AreDigits digits
  power : ∀ power, numeral.power = some power → AreDigits power.digits

/-- The characters of a numeral's fraction. -/
def fractionChars : Option (List Char) → List Char
  | none => []
  | some digits => '.' :: digits

/-- The characters of a numeral's power of ten. -/
def powerChars : Option PowerText → List Char
  | none => []
  | some ⟨negative, digits⟩ => 'e' :: (if negative then '-' else '+') :: digits

/-- A numeral is printed as its sign, its whole part, its fraction and its power. -/
theorem Numeral.chars_eq (numeral : Numeral) :
    numeral.chars = signChars numeral.negative
      ++ (numeral.whole ++ (fractionChars numeral.fraction ++ powerChars numeral.power)) := by
  obtain ⟨negative, whole, fraction, power⟩ := numeral
  cases fraction <;> cases power <;>
    simp [chars, signChars, fractionChars, powerChars]

/-- A numeral that can be written is written by what is printed. -/
theorem Numeral.IsWritten.writes {numeral : Numeral} (written : numeral.IsWritten) :
    numeral.Writes numeral.chars := by
  rw [Numeral.chars_eq]
  obtain ⟨negative, whole, fraction, power⟩ := numeral
  refine .numeral written.whole ?_ ?_
  · cases fraction with
    | none => exact .none
    | some digits => exact .some (written.fraction digits rfl)
  · cases power with
    | none => exact .none
    | some text =>
      obtain ⟨below, digits⟩ := text
      have areDigits : AreDigits digits := written.power _ rfl
      cases below with
      | true => exact .some (.inl rfl) .minus areDigits
      | false => exact .some (.inl rfl) .plus areDigits

/-- A digit of sixteen is read back. -/
theorem hexValue?_hexDigit : ∀ value < 16, hexValue? (hexDigit value) = some value := by decide

/-- The escape of a code unit writes it. -/
theorem unicodeEscape_writes {code : Nat} (small : code < 0x10000) :
    (StringPart.unit code).Writes (unicodeEscape code) := by
  have digit (value : Nat) : hexValue? (hexDigit (value % 16)) = some (value % 16) :=
    hexValue?_hexDigit _ (Nat.mod_lt _ (by decide))
  have sum : ((code / 4096 % 16 * 16 + code / 256 % 16) * 16 + code / 16 % 16) * 16 + code % 16
      = code := by omega
  have written := WritesUnit.unit (digit (code / 4096)) (digit (code / 256)) (digit (code / 16))
    (digit code)
  rw [sum] at written
  exact .unit written

/-- A printed character is one part that stands for it. -/
theorem escapeChar_writes (character : Char) :
    ∃ part : StringPart, part.Writes (escapeChar character) ∧
      ∀ parts, StringPart.decode (part :: parts)
        = (StringPart.decode parts).map (character :: ·) := by
  have short (letter : Char) {stands : Char} (isShort : shortEscape? letter = some stands) :
      ∃ part : StringPart, part.Writes ['\\', letter] ∧
        ∀ parts, StringPart.decode (part :: parts)
          = (StringPart.decode parts).map (stands :: ·) :=
    ⟨.character stands, .short isShort, fun _ => by rw [StringPart.decode]⟩
  unfold escapeChar
  split
  · exact short '"' rfl
  · exact short '\\' rfl
  · exact short 'n' rfl
  · exact short 'r' rfl
  · exact short 't' rfl
  · exact short 'b' rfl
  · exact short 'f' rfl
  · rename_i noQuote noBackslash _ _ _ _ _
    split
    · rename_i control
      have noLead : isLeadSurrogate character.toNat = false := by
        simp only [isLeadSurrogate, Bool.and_eq_false_iff, decide_eq_false_iff_not]
        omega
      have noTrail : isTrailSurrogate character.toNat = false := by
        simp only [isTrailSurrogate, Bool.and_eq_false_iff, decide_eq_false_iff_not]
        omega
      refine ⟨.unit character.toNat, unicodeEscape_writes (by omega), fun parts => ?_⟩
      rw [StringPart.decode_scalar noLead noTrail, Char.ofNat_toNat]
    · rename_i noControl
      exact ⟨.character character, .plain noQuote noBackslash (Nat.not_lt.mp noControl),
        fun _ => by rw [StringPart.decode]⟩

/-- Escaped characters are the parts of a string that stands for them. -/
theorem flatMap_escapeChar_writes (characters : List Char) :
    ∃ parts, WritesParts parts (characters.flatMap escapeChar) ∧
      StringPart.decode parts = some characters := by
  induction characters with
  | nil => exact ⟨[], .nil, by rw [StringPart.decode]⟩
  | cons character others ih =>
    obtain ⟨parts, written, decoded⟩ := ih
    obtain ⟨part, first, decodes⟩ := escapeChar_writes character
    refine ⟨part :: parts, .cons first written, ?_⟩
    rw [decodes, decoded]
    rfl

/-- The printer writes every string. -/
theorem Quoted.writes_chars (value : Quoted) : value.Writes value.chars := by
  cases value with
  | text text =>
    obtain ⟨parts, written, decoded⟩ := flatMap_escapeChar_writes text.toList
    have isText : Quoted.ofParts parts = .text text := by
      rw [ofParts, decoded]
      exact congrArg Quoted.text String.ofList_toList
    have quoted := Writes.quoted written
    rw [isText] at quoted
    exact quoted
  | loneSurrogate =>
    have written : WritesParts [.unit 0xd800] (unicodeEscape 0xd800 ++ []) :=
      .cons (unicodeEscape_writes (by decide)) .nil
    have alone : Quoted.ofParts [.unit 0xd800] = .loneSurrogate := by
      rw [ofParts, StringPart.decode_alone (.inl rfl)]
      intro _ _ _ same
      cases same
    have quoted := Writes.quoted written
    rw [alone] at quoted
    exact quoted

/-- A document all of whose numerals the grammar admits. -/
inductive Document.IsWritten : Document → Prop where
  | null : IsWritten .null
  | bool (value : Bool) : IsWritten (.bool value)
  | number {numeral : Numeral} (written : numeral.IsWritten) : IsWritten (.number numeral)
  | string (value : Quoted) : IsWritten (.string value)
  | array {items : List Document} (written : ∀ item ∈ items, IsWritten item) :
      IsWritten (.array items)
  | object {members : List (Quoted × Document)}
      (written : ∀ member ∈ members, IsWritten member.2) : IsWritten (.object members)

/-- A token without blanks. -/
def Padded.bare {Content : Type} (content : Content) (text : List Char) : Padded Content where
  content := content
  text := text

/-- Where nothing is around a text, nothing but blanks is. -/
theorem Padded.isBlank_bare {Content : Type} (content : Content) (text : List Char) :
    (bare content text).IsBlank :=
  ⟨areSpaces_nil, areSpaces_nil⟩

@[simp] theorem Padded.chars_bare {Content : Type} (content : Content) (text : List Char) :
    (bare content text).chars = text := by
  simp [bare, chars]

/-- A document as it is printed. -/
def Document.printed (document : Document) : Padded Document := .bare document document.chars

/-- A member as it is printed. -/
def MemberText.printed (member : Quoted × Document) : MemberText where
  name := .bare member.1 member.1.chars
  value := member.2.printed

/-- A printed member has its name. -/
theorem MemberText.isNamed_printed (member : Quoted × Document) : (printed member).IsNamed where
  written := member.1.writes_chars
  name := Padded.isBlank_bare ..
  value := Padded.isBlank_bare ..

/-- Items are printed with commas before all but the first. -/
theorem Document.itemChars_cons (first : Document) (others : List Document) :
    itemChars (first :: others) = first.chars ++ commaChars (others.map chars) := by
  induction others generalizing first with
  | nil => simp [itemChars, commaChars]
  | cons next others ih => rw [itemChars, ih, List.map_cons, commaChars_cons]

/-- Members are printed with commas before all but the first. -/
theorem Document.memberChars_cons (first : Quoted × Document) (others : List (Quoted × Document)) :
    memberChars (first :: others)
      = (MemberText.printed first).chars
        ++ commaChars (others.map (MemberText.chars ∘ MemberText.printed)) := by
  induction others generalizing first with
  | nil => simp [memberChars, commaChars, MemberText.printed, Document.printed, MemberText.chars]
  | cons next others ih =>
    rw [memberChars, ih, List.map_cons, commaChars_cons]
    simp [MemberText.printed, Document.printed, MemberText.chars]

/-- The printer writes every document of admitted numerals. -/
theorem Document.IsWritten.writes {document : Document} (written : document.IsWritten) :
    document.Writes document.chars := by
  induction written with
  | null => exact .literalNull
  | bool value =>
    cases value with
    | true => exact .literalTrue
    | false => exact .literalFalse
  | number written => exact .number written.writes
  | string value => exact .string value.writes_chars
  | @array items _ ih =>
    cases items with
    | nil => exact .emptyArray areSpaces_nil
    | cons first others =>
      have blank : ∀ item ∈ (first :: others).map printed, item.IsBlank :=
        List.forall_mem_map.mpr fun item _ => Padded.isBlank_bare ..
      have written : ∀ item ∈ (first :: others).map printed, item.content.Writes item.text :=
        List.forall_mem_map.mpr ih
      have contents : (first :: others).map (Padded.content ∘ printed) = first :: others :=
        List.map_id _
      have texts : others.map (Padded.chars ∘ printed) = others.map chars :=
        List.map_congr_left fun item _ => Padded.chars_bare ..
      have array := Writes.array blank written
      rw [← List.map_cons, List.map_map, List.map_map, contents, texts] at array
      rw [chars, itemChars_cons, List.append_assoc]
      rw [printed, Padded.chars_bare] at array
      exact array
  | @object members _ ih =>
    cases members with
    | nil => exact .emptyObject areSpaces_nil
    | cons first others =>
      have named : ∀ member ∈ (first :: others).map MemberText.printed, member.IsNamed :=
        List.forall_mem_map.mpr fun member _ => MemberText.isNamed_printed member
      have written : ∀ member ∈ (first :: others).map MemberText.printed,
          member.value.content.Writes member.value.text :=
        List.forall_mem_map.mpr ih
      have contents : (first :: others).map (MemberText.member ∘ MemberText.printed)
          = first :: others :=
        List.map_id _
      have object := Writes.object named written
      rw [← List.map_cons, List.map_map, List.map_map, contents] at object
      rw [chars, memberChars_cons, List.append_assoc]
      exact object

/-- Reading inverts the printer. -/
theorem read?_render {document : Document} (written : document.IsWritten) :
    read? document.render = some document := by
  refine Document.IsText.read?_eq ⟨.bare document document.chars, Padded.isBlank_bare .., rfl,
    written.writes, ?_⟩
  rw [Document.render, String.toList_ofList, Padded.chars_bare]

end ConfigDelivery.Json
