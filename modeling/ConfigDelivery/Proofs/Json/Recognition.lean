import ConfigDelivery.Proofs.Json.Reading
/-!
# What is read is written

Whatever the pushdown reader accepts is a text that the grammar has for the document it answers.
What a stack of open arrays and objects still asks of the text behind a value is written down as
`Closes`; an accepting run leaves a text that closes everything that is open. Together with the
reading of written texts this makes the reader a decision of the grammar.
-/

namespace ConfigDelivery.Json

/-- What is skipped is blank. -/
theorem skipSpace_sound (text : List Char) :
    ∃ spaces, AreSpaces spaces ∧ text = spaces ++ skipSpace text :=
  ⟨text.takeWhile isSpace, fun _ mem => List.mem_takeWhile_imp mem,
    List.takeWhile_append_dropWhile.symm⟩

/-! ## Numerals -/

/-- What is read as digits are digits, and nothing is lost. -/
theorem span_sound {text digits rest : List Char} (spanned : text.span isDigit = (digits, rest)) :
    (∀ digit ∈ digits, isDigit digit = true) ∧ text = digits ++ rest := by
  rw [List.span_eq_takeWhile_dropWhile] at spanned
  obtain ⟨rfl, rfl⟩ := Prod.mk.inj spanned
  exact ⟨fun _ mem => List.mem_takeWhile_imp mem, List.takeWhile_append_dropWhile.symm⟩

/-- What is read as a whole part is one. -/
theorem readWhole?_sound {text digits rest : List Char}
    (read : readWhole? text = some (digits, rest)) : AreWhole digits ∧ text = digits ++ rest := by
  unfold readWhole? at read
  split at read
  · cases read
    exact ⟨⟨⟨List.cons_ne_nil _ _, List.forall_mem_singleton.mpr rfl⟩, fun _ => rfl⟩, rfl⟩
  · rename_i noZero
    split at read
    · cases read
    · rename_i filled spanned
      cases read
      obtain ⟨all, split⟩ := span_sound spanned
      refine ⟨⟨⟨filled, all⟩, fun zero => ?_⟩, split⟩
      obtain ⟨others, rfl⟩ := List.head?_eq_some_iff.mp zero
      exact absurd split (noZero _)

/-- What is read as a fraction is one, or nothing. -/
theorem readFraction?_sound {text rest : List Char} {fraction : Option (List Char)}
    (read : readFraction? text = some (fraction, rest)) :
    ∃ written, WritesFraction fraction written ∧ text = written ++ rest := by
  unfold readFraction? at read
  split at read
  · split at read
    · cases read
    · rename_i filled spanned
      cases read
      obtain ⟨all, split⟩ := span_sound spanned
      refine ⟨_, .some ⟨filled, all⟩, congrArg _ split⟩
  · cases read
    exact ⟨[], .none, rfl⟩

/-- What is read as the sign of a power is one, or nothing. -/
theorem powerSign_sound (text : List Char) :
    ∃ sign, WritesSign (powerSign text).1 sign ∧ text = sign ++ (powerSign text).2 := by
  unfold powerSign
  split
  · exact ⟨_, .plus, rfl⟩
  · exact ⟨_, .minus, rfl⟩
  · exact ⟨_, .unsigned, rfl⟩

/-- What is read as a power is one, or nothing. -/
theorem readPower?_sound {text rest : List Char} {power : Option PowerText}
    (read : readPower? text = some (power, rest)) :
    ∃ written, WritesPower power written ∧ text = written ++ rest := by
  by_cases marked : ∃ mark behind, (mark = 'e' ∨ mark = 'E') ∧ text = mark :: behind
  · obtain ⟨mark, behind, isMark, rfl⟩ := marked
    have eitherMark : readPower? (mark :: behind) = readPower? ('e' :: behind) := by
      rcases isMark with rfl | rfl <;> rfl
    rw [eitherMark] at read
    simp only [readPower?] at read
    split at read
    · cases read
    · rename_i filled spanned
      cases read
      obtain ⟨all, digits⟩ := span_sound spanned
      obtain ⟨sign, signed, split⟩ := powerSign_sound behind
      refine ⟨_, .some isMark signed ⟨filled, all⟩, ?_⟩
      rw [List.cons_append, List.append_assoc, ← digits, ← split]
  · unfold readPower? at read
    split at read
    · exact absurd ⟨_, _, .inl rfl, rfl⟩ marked
    · exact absurd ⟨_, _, .inr rfl, rfl⟩ marked
    · cases read
      exact ⟨[], .none, rfl⟩

/-- What is read as a numeral is written as one. -/
theorem readNumeral?_sound {text rest : List Char} {numeral : Numeral}
    (read : readNumeral? text = some (numeral, rest)) :
    ∃ written, numeral.Writes written ∧ text = written ++ rest := by
  have signed (negative : Bool) {behind whole rest₁ rest₂ : List Char}
      {fraction : Option (List Char)} {power : Option PowerText}
      (readWhole : readWhole? behind = some (whole, rest₁))
      (readFraction : readFraction? rest₁ = some (fraction, rest₂))
      (readPower : readPower? rest₂ = some (power, rest)) :
      ∃ written, Numeral.Writes ⟨negative, whole, fraction, power⟩ written ∧
        signChars negative ++ behind = written ++ rest := by
    obtain ⟨areWhole, rfl⟩ := readWhole?_sound readWhole
    obtain ⟨fractionText, writesFraction, rfl⟩ := readFraction?_sound readFraction
    obtain ⟨powerText, writesPower, rfl⟩ := readPower?_sound readPower
    refine ⟨_, .numeral areWhole writesFraction writesPower, ?_⟩
    simp only [List.append_assoc]
  unfold readNumeral? at read
  dsimp only at read
  split at read
  all_goals
    simp only [Option.bind_eq_bind, Option.bind_eq_some_iff, Option.pure_def] at read
    obtain ⟨⟨whole, rest₁⟩, readWhole, ⟨fraction, rest₂⟩, readFraction, ⟨power, rest₃⟩, readPower,
      same⟩ := read
    cases same
  · exact signed true readWhole readFraction readPower
  · exact signed false readWhole readFraction readPower

/-! ## Strings -/

/-- What is read as four digits of a unit are the digits of one. -/
theorem readHex4?_sound {text rest : List Char} {code : Nat}
    (read : readHex4? text = some (code, rest)) :
    ∃ digits, WritesUnit code digits ∧ text = digits ++ rest := by
  unfold readHex4? at read
  split at read
  · simp only [Option.bind_eq_bind, Option.bind_eq_some_iff, Option.pure_def] at read
    obtain ⟨a, isFirst, b, isSecond, c, isThird, d, isFourth, same⟩ := read
    cases same
    exact ⟨_, .unit isFirst isSecond isThird isFourth, rfl⟩
  · cases read

/-- What is read as a trail is an escaped one. -/
theorem readTrail?_sound {text rest : List Char} {trail : Nat}
    (read : readTrail? text = some (trail, rest)) :
    isTrailSurrogate trail = true ∧
      ∃ digits, WritesUnit trail digits ∧ text = '\\' :: 'u' :: (digits ++ rest) := by
  unfold readTrail? at read
  split at read
  · split at read
    · rename_i read'
      split at read
      · rename_i isTrail
        cases read
        obtain ⟨digits, written, rfl⟩ := readHex4?_sound read'
        exact ⟨isTrail, digits, written, rfl⟩
      · cases read
    · cases read
  · cases read

/-- What an escape adds to the characters behind it. -/
def Escaped.before : Escaped → Option (List Char) → Option (List Char)
  | .character value, rest => rest.map (value :: ·)
  | .loneSurrogate, _ => none

/-- Where no second half of a pair is read, the next part of the string is none. -/
theorem isTrail_of_readTrail?_none {unit : Nat} {others : List StringPart}
    {inside tail : List Char} (written : WritesParts (.unit unit :: others) inside)
    (noTrail : readTrail? (inside ++ tail) = none) : isTrailSurrogate unit = false := by
  cases written with | cons first others =>
  cases first with | unit digits =>
  rw [List.append_assoc, List.cons_append, List.cons_append, readTrail?_unit digits] at noTrail
  split at noTrail
  · cases noTrail
  · rename_i isNoTrail
    exact Bool.eq_false_iff.mpr isNoTrail

/-- A text behind a backslash begins with the writing of parts that the escape stands for; what
stands behind it in the string adds no partner to a half that stood alone. -/
def Escaped.Begins (escaped : Escaped) (text rest : List Char) : Prop :=
  ∃ parts written, WritesParts parts ('\\' :: written) ∧ text = written ++ rest ∧
    ∀ {more inside tail}, WritesParts more inside → rest = inside ++ '"' :: tail →
      StringPart.decode (parts ++ more) = escaped.before (StringPart.decode more)

/-- An escape with four digits is a unit of its own or makes up a pair with the next one. -/
theorem readEscape?_unit_sound {digits rest : List Char} {escaped : Escaped}
    (read : readEscape? ('u' :: digits) = some (escaped, rest)) :
    escaped.Begins ('u' :: digits) rest := by
  simp only [readEscape?, Option.bind_eq_bind, Option.bind_eq_some_iff, Option.pure_def] at read
  obtain ⟨⟨code, behind⟩, readUnit, read⟩ := read
  obtain ⟨unitDigits, written, rfl⟩ := readHex4?_sound readUnit
  have one : WritesParts [.unit code] (('\\' :: 'u' :: unitDigits) ++ []) :=
    .cons (.unit written) .nil
  rw [List.append_nil] at one
  dsimp only at read
  split at read
  · rename_i isLead
    split at read
    · rename_i trail behind' readTrail
      cases read
      obtain ⟨isTrail, trailDigits, writtenTrail, rfl⟩ := readTrail?_sound readTrail
      refine ⟨[.unit code, .unit trail], _,
        .cons (.unit written) (.cons (.unit writtenTrail) .nil), ?_, fun _ _ => ?_⟩
      · simp
      · exact StringPart.decode_pair isLead isTrail _
    · rename_i noTrail
      cases read
      refine ⟨[.unit code], _, one, by simp, fun {more inside tail} writtenMore behind => ?_⟩
      refine StringPart.decode_alone (.inl isLead) fun _ trail others same => ?_
      subst same
      rw [behind] at noTrail
      exact isTrail_of_readTrail?_none writtenMore noTrail
  · rename_i noLead
    split at read
    · rename_i isTrail
      cases read
      refine ⟨[.unit code], _, one, by simp, fun _ _ => ?_⟩
      exact StringPart.decode_alone (.inr isTrail) fun isLead => absurd isLead noLead
    · rename_i noTrail
      cases read
      refine ⟨[.unit code], _, one, by simp, fun _ _ => ?_⟩
      exact StringPart.decode_scalar (Bool.eq_false_iff.mpr noLead)
        (Bool.eq_false_iff.mpr noTrail) _

/-- What is read behind a backslash begins a string that stands for it. -/
theorem readEscape?_sound {text rest : List Char} {escaped : Escaped}
    (read : readEscape? text = some (escaped, rest)) : escaped.Begins text rest := by
  by_cases isUnit : ∃ digits, text = 'u' :: digits
  · obtain ⟨digits, rfl⟩ := isUnit
    exact readEscape?_unit_sound read
  unfold readEscape? at read
  split at read
  · exact absurd ⟨_, rfl⟩ isUnit
  · rename_i letter behind _
    simp only [Option.bind_eq_bind, Option.bind_eq_some_iff, Option.pure_def] at read
    obtain ⟨value, stands, same⟩ := read
    cases same
    have one : WritesParts [.character value] (['\\', letter] ++ []) := .cons (.short stands) .nil
    exact ⟨[.character value], [letter], one, rfl, fun _ _ => by
      rw [List.singleton_append, StringPart.decode]
      rfl⟩
  · cases read

/-- Parts and then more parts are written one after the other. -/
theorem WritesParts.append {parts more : List StringPart} {written inside : List Char}
    (first : WritesParts parts written) (second : WritesParts more inside) :
    WritesParts (parts ++ more) (written ++ inside) := by
  induction first with
  | nil => exact second
  | cons part _ ih =>
    rw [List.append_assoc]
    exact .cons part ih

/-- The inside of a string is read from parts that stand before its closing quote. -/
theorem readQuoted?_sound {fuel : Nat} {whole : Bool} {done text rest : List Char} {value : Quoted}
    (read : readQuoted? fuel whole done text = some (value, rest)) :
    ∃ parts inside, WritesParts parts inside ∧ text = inside ++ '"' :: rest ∧
      value = .closing whole done (StringPart.decode parts) := by
  induction fuel generalizing whole done text with
  | zero => cases read
  | succ fuel ih =>
    cases text with
    | nil => cases read
    | cons character behind =>
      rw [readQuoted?] at read
      split at read
      · rename_i quote
        cases read
        obtain rfl := beq_iff_eq.mp quote
        refine ⟨[], [], .nil, rfl, ?_⟩
        simp [StringPart.decode, Quoted.closing]
      · rename_i noQuote
        split at read
        · rename_i backslash
          obtain rfl := beq_iff_eq.mp backslash
          split at read
          · cases read
          · rename_i value behind' escape
            obtain ⟨parts, written, writes, rfl, decodes⟩ := readEscape?_sound escape
            obtain ⟨more, inside, writesMore, rfl, rfl⟩ := ih read
            refine ⟨_, _, writes.append writesMore, ?_, ?_⟩
            · simp
            · rw [decodes writesMore rfl, Quoted.closing_cons]
              rfl
          · rename_i behind' escape
            obtain ⟨parts, written, writes, rfl, decodes⟩ := readEscape?_sound escape
            obtain ⟨more, inside, writesMore, rfl, rfl⟩ := ih read
            refine ⟨_, _, writes.append writesMore, ?_, ?_⟩
            · simp
            · rw [decodes writesMore rfl, Quoted.closing_false]
              rfl
        · rename_i noBackslash
          split at read
          · cases read
          · rename_i noControl
            obtain ⟨parts, inside, writes, rfl, rfl⟩ := ih read
            have plain : (StringPart.character character).Writes [character] :=
              .plain (fun same => noQuote (beq_iff_eq.mpr same))
                (fun same => noBackslash (beq_iff_eq.mpr same)) (Nat.not_lt.mp noControl)
            refine ⟨_, _, .cons plain writes, rfl, ?_⟩
            rw [Quoted.closing_cons, StringPart.decode]

/-- What is read behind a quote is the rest of a string. -/
theorem readString?_sound {text rest : List Char} {value : Quoted}
    (read : readString? text = some (value, rest)) :
    ∃ inside, value.Writes ('"' :: inside) ∧ text = inside ++ rest := by
  obtain ⟨parts, inside, writes, rfl, rfl⟩ := readQuoted?_sound read
  refine ⟨inside ++ ['"'], .quoted writes, ?_⟩
  simp

/-! ## Documents -/

/-- A text behind a value closes what is open, so that a whole document is complete and the rest is
left. -/
def Closes : List Frame → Document → List Char → Document → List Char → Prop
  | [], document, text, whole, rest => document = whole ∧ text = rest
  | .array done :: open_, document, text, whole, rest =>
    ∃ (after : List Char) (items : List (Padded Document)) (behind : List Char), AreSpaces after ∧
      (∀ item ∈ items, item.IsBlank) ∧ (∀ item ∈ items, item.content.Writes item.text) ∧
      text = after ++ (commaChars (items.map Padded.chars) ++ ']' :: behind) ∧
      Closes open_ (.array (done.reverse ++ document :: items.map Padded.content)) behind whole rest
  | .object done name :: open_, document, text, whole, rest =>
    ∃ (after : List Char) (members : List MemberText) (behind : List Char), AreSpaces after ∧
      (∀ member ∈ members, member.IsNamed) ∧
      (∀ member ∈ members, member.value.content.Writes member.value.text) ∧
      text = after ++ (commaChars (members.map MemberText.chars) ++ '}' :: behind) ∧
      Closes open_ (.object (done.reverse ++ (name, document) :: members.map MemberText.member))
        behind whole rest

/-- A text has a value in front, and what is behind it closes what is open. -/
def Completes (open_ : List Frame) (text : List Char) (whole : Document) (rest : List Char) :
    Prop :=
  ∃ (document : Document) (before value behind : List Char), AreSpaces before ∧
    document.Writes value ∧ text = before ++ (value ++ behind) ∧
    Closes open_ document behind whole rest

variable {open_ : List Frame} {text rest : List Char} {whole : Document}

/-- Blanks in front of a value may be written too. -/
theorem Completes.of_skipSpace (completes : Completes open_ (skipSpace text) whole rest) :
    Completes open_ text whole rest := by
  obtain ⟨spaces, blank, split⟩ := skipSpace_sound text
  obtain ⟨document, before, value, behind, blankBefore, written, skipped, closes⟩ := completes
  refine ⟨document, spaces ++ before, value, behind, ?_, written, ?_, closes⟩
  · intro character mem
    exact (List.mem_append.mp mem).elim (blank character) (blankBefore character)
  · rw [List.append_assoc, ← skipped]
    exact split

/-- A value that begins at once completes what its text closes. -/
theorem Completes.of_writes {document : Document} {value behind : List Char}
    (written : document.Writes value) (closes : Closes open_ document behind whole rest) :
    Completes open_ (value ++ behind) whole rest :=
  ⟨document, [], value, behind, areSpaces_nil, written, rfl, closes⟩

/-- Two brackets with blanks between them complete a value. -/
theorem Completes.emptyArray {spaces behind : List Char} (blank : AreSpaces spaces)
    (closes : Closes open_ (.array []) behind whole rest) :
    Completes open_ ('[' :: (spaces ++ ']' :: behind)) whole rest := by
  simpa using Completes.of_writes (.emptyArray blank) closes

/-- Two braces with blanks between them complete a value. -/
theorem Completes.emptyObject {spaces behind : List Char} (blank : AreSpaces spaces)
    (closes : Closes open_ (.object []) behind whole rest) :
    Completes open_ ('{' :: (spaces ++ '}' :: behind)) whole rest := by
  simpa using Completes.of_writes (.emptyObject blank) closes

/-- A value inside an array is an item of it, and the others follow. -/
theorem Completes.items {done : List Document}
    (completes : Completes (.array done :: open_) text whole rest) :
    ∃ (first : Padded Document) (others : List (Padded Document)) (behind : List Char),
      (∀ item ∈ first :: others, item.IsBlank) ∧
      (∀ item ∈ first :: others, item.content.Writes item.text) ∧
      text = first.chars ++ (commaChars (others.map Padded.chars) ++ ']' :: behind) ∧
      Closes open_ (.array (done.reverse ++ (first :: others).map Padded.content)) behind whole
        rest := by
  obtain ⟨document, before, value, _, blankBefore, written, rfl, after, items, behind, blankAfter,
    blank, writes, rfl, closes⟩ := completes
  refine ⟨⟨document, before, value, after⟩, items, behind,
    List.forall_mem_cons.mpr ⟨⟨blankBefore, blankAfter⟩, blank⟩,
    List.forall_mem_cons.mpr ⟨written, writes⟩, ?_, closes⟩
  simp only [Padded.chars, List.append_assoc]

/-- An opened array completes a value once its items do. -/
theorem Completes.array (completes : Completes (.array [] :: open_) text whole rest) :
    Completes open_ ('[' :: text) whole rest := by
  obtain ⟨first, others, behind, blank, writes, rfl, closes⟩ := completes.items
  have completed := Completes.of_writes (.array blank writes) closes
  rw [List.cons_append, List.append_assoc, List.append_assoc, List.singleton_append] at completed
  exact completed

/-- A value behind the name of a member makes up the member, and the others follow. -/
theorem Completes.members {name : Padded Quoted} {done : List (Quoted × Document)}
    (written : name.content.Writes name.text) (blankName : name.IsBlank)
    (completes : Completes (.object done name.content :: open_) text whole rest) :
    ∃ (first : MemberText) (others : List MemberText) (behind : List Char),
      (∀ member ∈ first :: others, member.IsNamed) ∧
      (∀ member ∈ first :: others, member.value.content.Writes member.value.text) ∧
      name.chars ++ ':' :: text
        = first.chars ++ (commaChars (others.map MemberText.chars) ++ '}' :: behind) ∧
      Closes open_ (.object (done.reverse ++ (first :: others).map MemberText.member)) behind whole
        rest := by
  obtain ⟨document, before, value, _, blankBefore, writtenValue, rfl, after, members, behind,
    blankAfter, named, writes, rfl, closes⟩ := completes
  refine ⟨⟨name, ⟨document, before, value, after⟩⟩, members, behind,
    List.forall_mem_cons.mpr ⟨⟨written, blankName, blankBefore, blankAfter⟩, named⟩,
    List.forall_mem_cons.mpr ⟨writtenValue, writes⟩, ?_, closes⟩
  simp only [MemberText.chars, Padded.chars, List.append_assoc, List.cons_append]

/-- An opened object completes a value once its members do. -/
theorem Completes.object {name : Padded Quoted} (written : name.content.Writes name.text)
    (blank : name.IsBlank)
    (completes : Completes (.object [] name.content :: open_) text whole rest) :
    Completes open_ ('{' :: (name.chars ++ ':' :: text)) whole rest := by
  obtain ⟨first, others, behind, named, writes, same, closes⟩ := completes.members written blank
  have completed := Completes.of_writes (.object named writes) closes
  rw [List.cons_append, List.append_assoc, List.append_assoc, List.singleton_append] at completed
  rw [same]
  exact completed

/-- What is read as the name of a member is one, with a colon behind it. -/
theorem readName?_sound {name : Quoted} (read : readName? text = some (name, rest)) :
    ∃ piece : Padded Quoted, piece.IsBlank ∧ piece.content = name ∧ name.Writes piece.text ∧
      text = piece.chars ++ ':' :: rest := by
  obtain ⟨before, blankBefore, split⟩ := skipSpace_sound text
  unfold readName? at read
  split at read
  · rename_i behind skipped
    simp only [Option.bind_eq_bind, Option.bind_eq_some_iff] at read
    obtain ⟨⟨value, behindName⟩, readString, read⟩ := read
    obtain ⟨inside, written, rfl⟩ := readString?_sound readString
    obtain ⟨after, blankAfter, splitAfter⟩ := skipSpace_sound behindName
    dsimp only at read
    split at read
    · rename_i colon
      cases read
      refine ⟨⟨_, before, _, after⟩, ⟨blankBefore, blankAfter⟩, rfl, written, ?_⟩
      rw [split, skipped, splitAfter, colon]
      simp [Padded.chars]
    · cases read
  · cases read

/-! ## What stands behind a value -/

variable {document : Document} {after behind : List Char}

/-- A comma behind an item, and a value that completes the array with the item in it. -/
theorem Completes.closes_array {done : List Document} (blank : AreSpaces after)
    (completes : Completes (.array (document :: done) :: open_) behind whole rest) :
    Closes (.array done :: open_) document (after ++ ',' :: behind) whole rest := by
  obtain ⟨first, others, closing, blanks, writes, rfl, closes⟩ := completes.items
  refine ⟨after, first :: others, closing, blank, blanks, writes, ?_, ?_⟩
  · rw [List.map_cons, commaChars_cons, List.cons_append, List.append_assoc]
  · simpa using closes

/-- A bracket behind an item closes the array. -/
theorem closes_array {done : List Document} (blank : AreSpaces after)
    (closes : Closes open_ (.array (document :: done).reverse) behind whole rest) :
    Closes (.array done :: open_) document (after ++ ']' :: behind) whole rest :=
  ⟨after, [], behind, blank, by simp, by simp, rfl, by simpa using closes⟩

/-- A comma behind a member, and the next name with a value that completes the object. -/
theorem Completes.closes_object {done : List (Quoted × Document)} {name : Quoted}
    {next : Padded Quoted} (blank : AreSpaces after) (written : next.content.Writes next.text)
    (blankName : next.IsBlank)
    (completes : Completes (.object ((name, document) :: done) next.content :: open_) behind whole
      rest) :
    Closes (.object done name :: open_) document
      (after ++ ',' :: (next.chars ++ ':' :: behind)) whole rest := by
  obtain ⟨first, others, closing, named, writes, same, closes⟩ :=
    completes.members written blankName
  refine ⟨after, first :: others, closing, blank, named, writes, ?_, ?_⟩
  · rw [same, List.map_cons, commaChars_cons, List.cons_append, List.append_assoc]
  · simpa using closes

/-- A brace behind a member closes the object. -/
theorem closes_object {done : List (Quoted × Document)} {name : Quoted} (blank : AreSpaces after)
    (closes : Closes open_ (.object ((name, document) :: done).reverse) behind whole rest) :
    Closes (.object done name :: open_) document (after ++ '}' :: behind) whole rest :=
  ⟨after, [], behind, blank, by simp, by simp, rfl, by simpa using closes⟩

/-- What a text has to be in a state of the reader. -/
def Expecting.Fits (expecting : Expecting) (open_ : List Frame) (text : List Char)
    (whole : Document) (rest : List Char) : Prop :=
  match expecting with
  | .value => Completes open_ text whole rest
  | .afterValue document => Closes open_ document text whole rest

section Steps

/-! An accepting run of one more step is sound when what follows its first step is. -/

variable {fuel : Nat}
  (sound : ∀ {expecting : Expecting} {open_ : List Frame} {text : List Char},
    readFrom? fuel expecting open_ text = some (whole, rest) →
      expecting.Fits open_ text whole rest)
include sound

/-- The first step reads a value or the front of one. -/
theorem readFrom?_value_sound
    (read : readFrom? (fuel + 1) .value open_ text = some (whole, rest)) :
    Completes open_ text whole rest := by
  refine .of_skipSpace ?_
  rw [readFrom?] at read
  generalize skipSpace text = skipped at read ⊢
  split at read
  · rename_i behind
    obtain ⟨spaces, blank, split⟩ := skipSpace_sound behind
    split at read
    · rename_i behind' bracket
      rw [split, bracket]
      exact Completes.emptyArray blank (sound read)
    · have completes : Completes _ _ _ _ := sound read
      exact completes.of_skipSpace.array
  · rename_i behind
    obtain ⟨spaces, blank, split⟩ := skipSpace_sound behind
    split at read
    · rename_i behind' brace
      rw [split, brace]
      exact Completes.emptyObject blank (sound read)
    · split at read
      · rename_i name behindName readName
        rw [readName?, skipSpace_skipSpace, ← readName?] at readName
        obtain ⟨piece, blankName, rfl, written, rfl⟩ := readName?_sound readName
        exact Completes.object written blankName (sound read)
      · cases read
  · split at read
    · rename_i readString
      obtain ⟨inside, written, rfl⟩ := readString?_sound readString
      exact Completes.of_writes (.string written) (sound read)
    · cases read
  · exact Completes.of_writes .literalNull (sound read)
  · exact Completes.of_writes .literalTrue (sound read)
  · exact Completes.of_writes .literalFalse (sound read)
  · split at read
    · rename_i readNumeral
      obtain ⟨written, writes, rfl⟩ := readNumeral?_sound readNumeral
      exact Completes.of_writes (.number writes) (sound read)
    · cases read

/-- Behind a value the first step ends the run, goes on in the innermost frame or closes it. -/
theorem readFrom?_afterValue_sound
    (read : readFrom? (fuel + 1) (.afterValue document) open_ text = some (whole, rest)) :
    Closes open_ document text whole rest := by
  obtain ⟨after, blank, split⟩ := skipSpace_sound text
  cases open_ with
  | nil =>
    cases read
    exact ⟨rfl, rfl⟩
  | cons frame open_ =>
    rw [split]
    cases frame with
    | array done =>
      rw [readFrom?] at read
      split at read
      · rename_i behind comma
        rw [comma]
        exact Completes.closes_array blank (sound read)
      · rename_i behind bracket
        rw [bracket]
        exact closes_array blank (sound read)
      · cases read
    | object done name =>
      rw [readFrom?] at read
      split at read
      · rename_i behind comma
        split at read
        · rename_i next behindName readName
          obtain ⟨piece, blankName, rfl, written, rfl⟩ := readName?_sound readName
          rw [comma]
          exact Completes.closes_object blank written blankName (sound read)
        · cases read
      · rename_i behind brace
        rw [brace]
        exact closes_object blank (sound read)
      · cases read

end Steps

/-- An accepting run leaves a text that closes everything that is open. -/
theorem readFrom?_sound {fuel : Nat} {expecting : Expecting}
    (read : readFrom? fuel expecting open_ text = some (whole, rest)) :
    expecting.Fits open_ text whole rest := by
  induction fuel generalizing expecting open_ text with
  | zero => cases read
  | succ fuel ih =>
    cases expecting with
    | value => exact readFrom?_value_sound ih read
    | afterValue document => exact readFrom?_afterValue_sound ih read

/-- Reading decides the grammar: a text is read as a document exactly when it is a whole text of
it. -/
theorem read?_eq_some_iff {text : String} {document : Document} :
    read? text = some document ↔ document.IsText text := by
  refine ⟨fun read => ?_, Document.IsText.read?_eq⟩
  unfold read? at read
  dsimp only at read
  split at read
  · rename_i found behind accepted
    split at read
    · rename_i nothing
      have completes : Completes [] text.toList found behind := readFrom?_sound accepted
      cases read
      obtain ⟨_, before, value, _, blankBefore, written, chars, same, sameBehind⟩ := completes
      obtain ⟨after, blankAfter, left⟩ := skipSpace_sound behind
      rw [List.isEmpty_iff.mp nothing, List.append_nil] at left
      rw [same] at written
      rw [sameBehind] at chars
      exact ⟨⟨_, before, value, _⟩, ⟨blankBefore, left ▸ blankAfter⟩, rfl, written, chars⟩
    · cases read
  · cases read

end ConfigDelivery.Json
