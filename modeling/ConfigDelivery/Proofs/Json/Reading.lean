import ConfigDelivery.Proofs.Json.Grammar
import Mathlib.Data.List.DropRight
import Mathlib.Data.List.TakeDrop
/-!
# Texts are read as what they write

The pushdown reader gets from every text that the grammar has for a document, whatever arrays and
objects are open around it, to that very document. Strings and numerals come first, since a numeral
ends only where the text behind it cannot continue it.
-/

namespace ConfigDelivery.Json

/-! ## Blanks -/

theorem areSpaces_nil : AreSpaces [] := fun _ mem => absurd mem List.not_mem_nil

/-- Blanks in front of a text are skipped. -/
theorem skipSpace_append {spaces : List Char} (blank : AreSpaces spaces) (rest : List Char) :
    skipSpace (spaces ++ rest) = skipSpace rest :=
  List.dropWhile_append_of_pos blank

/-- Nothing is skipped where there is no blank. -/
theorem skipSpace_cons {head : Char} (tail : List Char) (space : isSpace head = false) :
    skipSpace (head :: tail) = head :: tail := by
  simp [skipSpace, space]

/-! ## Numerals -/

/-- A text does not begin with a digit. -/
def EndsDigits (text : List Char) : Prop :=
  ∀ head tail, text = head :: tail → isDigit head = false

/-- A text does not begin with a character that would continue a numeral. -/
def EndsNumeral (text : List Char) : Prop :=
  ∀ head tail, text = head :: tail →
    isDigit head = false ∧ head ≠ '.' ∧ head ≠ 'e' ∧ head ≠ 'E'

theorem endsNumeral_nil : EndsNumeral [] := fun _ _ same => by cases same

/-- A character that no numeral has ends one. -/
theorem endsNumeral_cons {head : Char} {tail : List Char}
    (ends : isDigit head = false ∧ head ≠ '.' ∧ head ≠ 'e' ∧ head ≠ 'E') :
    EndsNumeral (head :: tail) := by
  rintro _ _ same
  obtain rfl := (List.cons.inj same).1
  exact ends

/-- Blanks end a numeral, and so does what stands behind them. -/
theorem EndsNumeral.append {spaces rest : List Char} (ends : EndsNumeral rest)
    (blank : AreSpaces spaces) : EndsNumeral (spaces ++ rest) := by
  cases spaces with
  | nil => exact ends
  | cons space others =>
    have isSpace : isSpace space = true := blank space (List.mem_cons_self ..)
    refine endsNumeral_cons ?_
    simp only [Json.isSpace, Bool.or_eq_true, beq_iff_eq] at isSpace
    rcases isSpace with ((rfl | rfl) | rfl) | rfl <;> decide

/-- Digits are read up to the first character that is none. -/
theorem span_digits {digits rest : List Char} (areDigits : ∀ digit ∈ digits, isDigit digit = true)
    (ends : EndsDigits rest) : (digits ++ rest).span isDigit = (digits, rest) := by
  have stops : rest.takeWhile isDigit = [] ∧ rest.dropWhile isDigit = rest := by
    cases rest with
    | nil => simp
    | cons head tail => simp [ends head tail rfl]
  rw [List.span_eq_takeWhile_dropWhile, List.takeWhile_append_of_pos areDigits,
    List.dropWhile_append_of_pos areDigits, stops.1, stops.2, List.append_nil]

/-- A whole part is read up to its end. -/
theorem readWhole?_append {digits rest : List Char} (whole : AreWhole digits)
    (ends : EndsDigits rest) : readWhole? (digits ++ rest) = some (digits, rest) := by
  obtain ⟨first, others, rfl⟩ := List.exists_cons_of_ne_nil whole.filled
  have spanned := span_digits whole.all ends
  rw [List.cons_append] at spanned ⊢
  by_cases zero : first = '0'
  · obtain rfl : others = [] := by simpa [zero] using whole.leading (by simp [zero])
    subst zero
    rfl
  · unfold readWhole?
    split
    · rename_i same
      exact absurd (List.cons.inj same).1 zero
    · rw [spanned]

/-- A fraction is read up to its end, and so is its absence. -/
theorem readFraction?_append {fraction : Option (List Char)} {text rest : List Char}
    (written : WritesFraction fraction text) (ends : EndsDigits rest)
    (noPoint : ∀ tail, rest ≠ '.' :: tail) :
    readFraction? (text ++ rest) = some (fraction, rest) := by
  cases written with
  | none =>
    unfold readFraction?
    split
    · rename_i tail same
      exact absurd same (noPoint tail)
    · rfl
  | @some digits areDigits =>
    obtain ⟨filled, all⟩ := areDigits
    obtain ⟨first, others, rfl⟩ := List.exists_cons_of_ne_nil filled
    have spanned := span_digits all ends
    simp only [List.cons_append] at spanned ⊢
    simp only [readFraction?, spanned]

/-- The sign of a power is read, and its absence is a plus. -/
theorem powerSign_append {negative : Bool} {sign digits rest : List Char}
    (signed : WritesSign negative sign) (areDigits : AreDigits digits) :
    powerSign (sign ++ (digits ++ rest)) = (negative, digits ++ rest) := by
  cases signed with
  | plus | minus => rfl
  | unsigned =>
    obtain ⟨filled, all⟩ := areDigits
    obtain ⟨first, others, rfl⟩ := List.exists_cons_of_ne_nil filled
    have isDigit : isDigit first = true := all first (List.mem_cons_self ..)
    unfold powerSign
    split
    · rename_i same
      obtain rfl := (List.cons.inj same).1
      cases isDigit
    · rename_i same
      obtain rfl := (List.cons.inj same).1
      cases isDigit
    · rfl

/-- A power is read up to its end, and so is its absence. -/
theorem readPower?_append {power : Option PowerText} {text rest : List Char}
    (written : WritesPower power text) (ends : EndsNumeral rest) :
    readPower? (text ++ rest) = some (power, rest) := by
  cases written with
  | none =>
    unfold readPower?
    split
    · exact absurd rfl (ends _ _ ‹_›).2.2.1
    · exact absurd rfl (ends _ _ ‹_›).2.2.2
    · rfl
  | @some mark negative sign digits isMark signed areDigits =>
    have split : powerSign (sign ++ (digits ++ rest)) = (negative, digits ++ rest) :=
      powerSign_append signed areDigits
    obtain ⟨filled, all⟩ := areDigits
    obtain ⟨first, others, rfl⟩ := List.exists_cons_of_ne_nil filled
    have spanned := span_digits all fun head tail same => (ends head tail same).1
    rw [List.cons_append, List.append_assoc]
    rcases isMark with rfl | rfl <;> simp only [readPower?, split, spanned]

/-- Where a power begins, digits end, and no fraction begins. -/
theorem endsDigits_power {power : Option PowerText} {text rest : List Char}
    (written : WritesPower power text) (ends : EndsNumeral rest) :
    EndsDigits (text ++ rest) ∧ ∀ tail, text ++ rest ≠ '.' :: tail := by
  cases written with
  | none =>
    exact ⟨fun head tail same => (ends head tail same).1, fun tail same => (ends _ _ same).2.1 rfl⟩
  | some isMark =>
    refine ⟨fun head tail same => ?_, fun tail same => ?_⟩
    · obtain rfl := (List.cons.inj same).1
      rcases isMark with rfl | rfl <;> rfl
    · obtain rfl := (List.cons.inj same).1
      rcases isMark with isE | isE <;> cases isE

/-- Where a fraction begins, digits end. -/
theorem endsDigits_fraction {fraction : Option (List Char)} {text rest : List Char}
    (written : WritesFraction fraction text) (ends : EndsDigits rest) :
    EndsDigits (text ++ rest) := by
  cases written with
  | none => exact ends
  | some areDigits =>
    rintro head tail same
    obtain rfl : '.' = head := (List.cons.inj same).1
    rfl

/-- A numeral is read from each of its texts, as far as nothing behind continues it. -/
theorem readNumeral?_append {numeral : Numeral} {text rest : List Char}
    (written : numeral.Writes text) (ends : EndsNumeral rest) :
    readNumeral? (text ++ rest) = some (numeral, rest) := by
  obtain @⟨negative, whole, fraction, power, fractionText, powerText, areWhole, writesFraction,
    writesPower⟩ := written
  obtain ⟨endsPower, noPoint⟩ := endsDigits_power writesPower ends
  have readPower := readPower?_append writesPower ends
  have readFraction := readFraction?_append writesFraction endsPower noPoint
  have readWhole :=
    readWhole?_append areWhole (endsDigits_fraction writesFraction endsPower)
  obtain ⟨first, others, rfl⟩ := List.exists_cons_of_ne_nil areWhole.filled
  have noSign : first ≠ '-' := by
    rintro rfl
    exact absurd (areWhole.all '-' (List.mem_cons_self ..)) (by decide)
  simp only [List.append_assoc, List.cons_append] at readWhole readFraction readPower ⊢
  cases negative <;>
    simp [signChars, readNumeral?, noSign, readWhole, readFraction, readPower]

/-! ## Strings -/

/-- The four digits of a unit are read. -/
theorem readHex4?_append {code : Nat} {digits : List Char} (written : WritesUnit code digits)
    (rest : List Char) : readHex4? (digits ++ rest) = some (code, rest) := by
  obtain ⟨isFirst, isSecond, isThird, isFourth⟩ := written
  simp only [List.cons_append, List.nil_append, readHex4?, isFirst, isSecond, isThird, isFourth,
    Option.bind_eq_bind, Option.bind_some, Option.pure_def]

/-- An escaped unit is read as a trail if it is one. -/
theorem readTrail?_unit {code : Nat} {digits : List Char} (written : WritesUnit code digits)
    (rest : List Char) :
    readTrail? ('\\' :: 'u' :: (digits ++ rest))
      = if isTrailSurrogate code then some (code, rest) else none := by
  simp only [readTrail?, readHex4?_append written]

/-- Parts that do not begin with the second half of a pair give none. -/
theorem readTrail?_parts {parts : List StringPart} {inside : List Char}
    (written : WritesParts parts inside)
    (noTrail : ∀ code others, parts = .unit code :: others → isTrailSurrogate code = false)
    (rest : List Char) : readTrail? (inside ++ '"' :: rest) = none := by
  cases written with
  | nil => rfl
  | cons first others =>
    rw [List.append_assoc]
    cases first with
    | plain noQuote noBackslash _ =>
      unfold readTrail?
      split
      · rename_i same
        exact absurd (List.cons.inj same).1 noBackslash
      · rfl
    | @short letter value stands =>
      unfold readTrail?
      split
      · rename_i same
        have isU : letter = 'u' := (List.cons.inj (List.cons.inj same).2).1
        subst isU
        cases stands
      · rfl
    | unit written =>
      rw [List.cons_append, List.cons_append, readTrail?_unit written, noTrail _ _ rfl]
      rfl

/-- The string that a reader ends with which has met the characters `done`, last first, and no half
of a pair that stood alone if it is `whole`. -/
def Quoted.closing (whole : Bool) (done : List Char) (rest : Option (List Char)) : Quoted :=
  match rest with
  | some characters =>
    if whole then .text (String.ofList (done.reverse ++ characters)) else .loneSurrogate
  | none => .loneSurrogate

/-- A character that was read before belongs in front of the text. -/
theorem Quoted.closing_cons (whole : Bool) (done : List Char) (value : Char)
    (rest : Option (List Char)) :
    closing whole (value :: done) rest = closing whole done (rest.map (value :: ·)) := by
  cases rest with
  | none => rfl
  | some characters => simp [closing]

/-- A string with half of a pair in it has no text. -/
theorem Quoted.closing_false (done : List Char) (rest : Option (List Char)) :
    closing false done rest = .loneSurrogate := by
  cases rest <;> rfl

/-- A pair of halves stands for one character. -/
theorem StringPart.decode_pair {lead trail : Nat} (isLead : isLeadSurrogate lead = true)
    (isTrail : isTrailSurrogate trail = true) (rest : List StringPart) :
    decode (.unit lead :: .unit trail :: rest)
      = (decode rest).map (Char.ofNat (combineSurrogates lead trail) :: ·) := by
  simp only [decode, isLead, isTrail, Bool.and_self, if_true]

/-- Half of a pair that stands alone leaves no text. -/
theorem StringPart.decode_alone {code : Nat} {rest : List StringPart}
    (isHalf : isLeadSurrogate code = true ∨ isTrailSurrogate code = true)
    (noPair : isLeadSurrogate code = true →
      ∀ trail others, rest = .unit trail :: others → isTrailSurrogate trail = false) :
    decode (.unit code :: rest) = none := by
  rcases rest with _ | ⟨value | trail, others⟩
  · simp [decode, isHalf]
  · simp [decode, isHalf]
  · have apart : ¬ (isLeadSurrogate code = true ∧ isTrailSurrogate trail = true) := by
      rintro ⟨isLead, isTrail⟩
      exact Bool.noConfusion (isTrail.symm.trans (noPair isLead _ _ rfl))
    simp [decode, isHalf, apart]

/-- A unit that is not half of a pair is a character. -/
theorem StringPart.decode_scalar {code : Nat} (noLead : isLeadSurrogate code = false)
    (noTrail : isTrailSurrogate code = false) (rest : List StringPart) :
    decode (.unit code :: rest) = (decode rest).map (Char.ofNat code :: ·) := by
  rcases rest with _ | ⟨value | trail, others⟩ <;> simp [decode, noLead, noTrail]

/-- What one step of the reader makes of an escape by a code unit. -/
theorem readQuoted?_unit {code : Nat} {digits : List Char} (written : WritesUnit code digits)
    (fuel : Nat) (whole : Bool) (done rest : List Char) :
    readQuoted? (fuel + 1) whole done ('\\' :: 'u' :: (digits ++ rest)) =
      if isLeadSurrogate code then
        match readTrail? rest with
        | some (trail, rest) =>
          readQuoted? fuel whole (Char.ofNat (combineSurrogates code trail) :: done) rest
        | none => readQuoted? fuel false done rest
      else if isTrailSurrogate code then readQuoted? fuel false done rest
      else readQuoted? fuel whole (Char.ofNat code :: done) rest := by
  rw [readQuoted?, if_neg (by decide), if_pos (by decide)]
  simp only [readEscape?, readHex4?_append written, Option.bind_eq_bind, Option.bind_some,
    Option.pure_def]
  by_cases isLead : isLeadSurrogate code = true
  · rw [if_pos isLead, if_pos isLead]
    cases readTrail? rest <;> rfl
  · rw [if_neg isLead, if_neg isLead]
    by_cases isTrail : isTrailSurrogate code = true
    · rw [if_pos isTrail, if_pos isTrail]
    · rw [if_neg isTrail, if_neg isTrail]

/-- What one step of the reader makes of a character, plain or behind a backslash. -/
theorem readQuoted?_character {value : Char} {text : List Char}
    (written : (StringPart.character value).Writes text) (fuel : Nat) (whole : Bool)
    (done rest : List Char) :
    readQuoted? (fuel + 1) whole done (text ++ rest)
      = readQuoted? fuel whole (value :: done) rest := by
  cases written with
  | plain noQuote noBackslash noControl =>
    simp [readQuoted?, noQuote, noBackslash, Nat.not_lt.mpr noControl]
  | @short letter _ stands =>
    have escape : readEscape? (letter :: rest) = some (.character value, rest) := by
      unfold readEscape?
      split
      · rename_i same
        obtain rfl := (List.cons.inj same).1
        cases stands
      · rename_i same
        obtain ⟨rfl, rfl⟩ := List.cons.inj same
        rw [stands]
        rfl
      · rename_i same
        cases same
    rw [List.cons_append, List.singleton_append, readQuoted?, if_neg (by decide),
      if_pos (by decide), escape]

/-- The inside of a string is read up to its closing quote. -/
theorem readQuoted?_parts {parts : List StringPart} {inside : List Char}
    (written : WritesParts parts inside) (fuel : Nat) (whole : Bool) (done rest : List Char)
    (room : parts.length < fuel) :
    readQuoted? fuel whole done (inside ++ '"' :: rest)
      = some (.closing whole done (StringPart.decode parts), rest) := by
  -- A pair takes two parts in one step, so the induction is on the number of parts.
  induction length : parts.length using Nat.strongRecOn
    generalizing parts inside fuel whole done with
  | ind count ih =>
    subst length
    obtain ⟨fuel, rfl⟩ := Nat.exists_eq_succ_of_ne_zero (Nat.ne_zero_of_lt room)
    cases written with
    | nil => simp [readQuoted?, StringPart.decode, Quoted.closing]
    | @cons part parts text inside first others =>
      have fits : parts.length < fuel := Nat.lt_of_succ_lt_succ room
      have further (whole : Bool) (done : List Char) :=
        ih parts.length (Nat.lt_succ_self _) others fuel whole done fits rfl
      rw [List.append_assoc]
      cases part with
      | character value =>
        rw [readQuoted?_character first, further, Quoted.closing_cons, StringPart.decode]
      | unit code =>
        cases first with | unit written =>
        rw [List.cons_append, List.cons_append, readQuoted?_unit written]
        -- A half that stands alone leaves the string without a text, whatever comes behind it.
        have alone (isHalf : isLeadSurrogate code = true ∨ isTrailSurrogate code = true)
            (noPair : isLeadSurrogate code = true →
              ∀ trail rest, parts = .unit trail :: rest → isTrailSurrogate trail = false) :
            readQuoted? fuel false done (inside ++ '"' :: rest)
              = some (.closing whole done (StringPart.decode (.unit code :: parts)), rest) := by
          rw [further, Quoted.closing_false, StringPart.decode_alone isHalf noPair]
          rfl
        by_cases isLead : isLeadSurrogate code = true
        · rw [if_pos isLead]
          by_cases pair : ∃ trail rest, parts = .unit trail :: rest ∧ isTrailSurrogate trail = true
          · obtain ⟨trail, parts, rfl, isTrail⟩ := pair
            cases others with | cons second others =>
            cases second with | unit writtenTrail =>
            have shorter : parts.length < (StringPart.unit trail :: parts).length + 1 := by
              simp only [List.length_cons]
              omega
            rw [List.append_assoc, List.cons_append, List.cons_append,
              readTrail?_unit writtenTrail, if_pos isTrail, StringPart.decode_pair isLead isTrail,
              ← Quoted.closing_cons]
            exact ih parts.length shorter others fuel whole _ (Nat.lt_of_succ_lt fits) rfl
          · have noPair : ∀ trail rest, parts = .unit trail :: rest →
                isTrailSurrogate trail = false := by
              intro trail rest same
              exact Bool.eq_false_iff.mpr fun isTrail => pair ⟨trail, rest, same, isTrail⟩
            rw [readTrail?_parts others noPair]
            exact alone (.inl isLead) fun _ => noPair
        · rw [if_neg isLead]
          by_cases isTrail : isTrailSurrogate code = true
          · rw [if_pos isTrail]
            exact alone (.inr isTrail) fun lead => absurd lead isLead
          · rw [if_neg isTrail, further, Quoted.closing_cons,
              StringPart.decode_scalar (Bool.eq_false_iff.mpr isLead)
                (Bool.eq_false_iff.mpr isTrail)]

/-- No part of a string is written by nothing. -/
theorem StringPart.Writes.filled {part : StringPart} {text : List Char}
    (written : part.Writes text) : 0 < text.length := by
  cases written <;> exact Nat.succ_pos _

/-- A string has no more parts than characters between its quotes. -/
theorem WritesParts.length_le {parts : List StringPart} {inside : List Char}
    (written : WritesParts parts inside) : parts.length ≤ inside.length := by
  induction written with
  | nil => exact Nat.le_refl _
  | cons first others ih =>
    have filled := first.filled
    rw [List.length_cons, List.length_append]
    omega

/-- A string is read behind its opening quote. -/
theorem readString?_append {value : Quoted} {inside : List Char}
    (written : value.Writes ('"' :: inside)) (rest : List Char) :
    readString? (inside ++ rest) = some (value, rest) := by
  cases written with | quoted written =>
  rename_i parts inside
  have room : parts.length < (inside ++ ['"'] ++ rest).length + 1 := by
    have shorter := written.length_le
    simp only [List.length_append]
    omega
  have read := readQuoted?_parts written _ true [] rest room
  rw [readString?, List.append_assoc, List.singleton_append]
  rw [List.append_assoc, List.singleton_append] at read
  exact read

/-! ## Documents -/

attribute [local simp] readFrom?

/-- The reader gets from a text, whatever is open, to a document, in at most as many steps as there
are characters. -/
def Document.IsReadFrom (document : Document) (text : List Char) : Prop :=
  ∃ steps ≤ text.length, ∀ fuel open_ rest, EndsNumeral rest →
    readFrom? (steps + fuel) .value open_ (text ++ rest)
      = readFrom? fuel (.afterValue document) open_ rest

/-- A character that a value begins with. -/
def StartsValue (text : List Char) : Prop :=
  ∃ head tail, text = head :: tail ∧ isSpace head = false ∧ head ≠ ']' ∧ head ≠ '}'

/-- A string begins with a quote. -/
theorem Quoted.Writes.eq_cons {value : Quoted} {text : List Char} (written : value.Writes text) :
    ∃ inside, text = '"' :: inside := by
  cases written
  exact ⟨_, rfl⟩

/-- A numeral begins with a minus or a digit. -/
theorem Numeral.Writes.eq_cons {numeral : Numeral} {text : List Char}
    (written : numeral.Writes text) :
    ∃ head tail, text = head :: tail ∧ (head = '-' ∨ isDigit head = true) := by
  obtain @⟨negative, whole, _, _, _, _, areWhole, _, _⟩ := written
  obtain ⟨first, others, rfl⟩ := List.exists_cons_of_ne_nil areWhole.filled
  have isDigit : isDigit first = true := areWhole.all first (List.mem_cons_self ..)
  cases negative with
  | true => exact ⟨'-', _, rfl, .inl rfl⟩
  | false => exact ⟨first, _, rfl, .inr isDigit⟩

/-- What begins a numeral begins nothing else. -/
theorem digit_class {character : Char} (first : character = '-' ∨ isDigit character = true) :
    isSpace character = false ∧ character ≠ '[' ∧ character ≠ '{' ∧ character ≠ '"'
      ∧ character ≠ 'n' ∧ character ≠ 't' ∧ character ≠ 'f' ∧ character ≠ ']'
      ∧ character ≠ '}' := by
  rcases first with rfl | digit
  · decide
  · refine ⟨?_, ?_, ?_, ?_, ?_, ?_, ?_, ?_, ?_⟩
    · rw [← Bool.not_eq_true]
      intro space
      simp only [isSpace, Bool.or_eq_true, beq_iff_eq] at space
      rcases space with ((rfl | rfl) | rfl) | rfl <;> exact absurd digit (by decide)
    all_goals
      rintro rfl
      exact absurd digit (by decide)

/-- A written document begins as a value does. -/
theorem Document.Writes.startsValue {document : Document} {text : List Char}
    (written : document.Writes text) : StartsValue text := by
  cases written with
  | literalNull => exact ⟨'n', _, rfl, by decide⟩
  | literalTrue => exact ⟨'t', _, rfl, by decide⟩
  | literalFalse => exact ⟨'f', _, rfl, by decide⟩
  | number written =>
    obtain ⟨head, tail, rfl, first⟩ := written.eq_cons
    obtain ⟨space, _, _, _, _, _, _, bracket, brace⟩ := digit_class first
    exact ⟨head, tail, rfl, space, bracket, brace⟩
  | string written =>
    obtain ⟨inside, rfl⟩ := written.eq_cons
    exact ⟨'"', inside, rfl, by decide⟩
  | emptyArray | array => exact ⟨'[', _, rfl, by decide⟩
  | emptyObject | object => exact ⟨'{', _, rfl, by decide⟩

/-- No blank is skipped in front of a value. -/
theorem StartsValue.skipSpace {text : List Char} (starts : StartsValue text) (rest : List Char) :
    skipSpace (text ++ rest) = text ++ rest := by
  obtain ⟨head, tail, rfl, space, _⟩ := starts
  exact skipSpace_cons _ space

/-- Blanks in front of a value are skipped. -/
theorem readFrom?_congr {text other : List Char} (same : skipSpace text = skipSpace other)
    (fuel : Nat) (open_ : List Frame) :
    readFrom? fuel .value open_ text = readFrom? fuel .value open_ other := by
  cases fuel with
  | zero => rfl
  | succ fuel => rw [readFrom?, readFrom?, same]

/-- Blanks are skipped at once. -/
theorem skipSpace_skipSpace (text : List Char) : skipSpace (skipSpace text) = skipSpace text :=
  List.dropWhile_idempotent isSpace text

/-- A numeral is read as a document. -/
theorem Document.isReadFrom_number {numeral : Numeral} {text : List Char}
    (written : numeral.Writes text) : (Document.number numeral).IsReadFrom text := by
  obtain ⟨head, tail, rfl, first⟩ := written.eq_cons
  obtain ⟨space, bracket, brace, quote, n, t, f, _, _⟩ := digit_class first
  refine ⟨1, by simp, fun fuel open_ rest ends => ?_⟩
  have read := readNumeral?_append written ends
  rw [Nat.add_comm]
  rw [List.cons_append] at read ⊢
  rw [readFrom?, skipSpace_cons _ space]
  simp [bracket, brace, quote, n, t, f, read]

/-- A string is read as a document. -/
theorem Document.isReadFrom_string {value : Quoted} {text : List Char}
    (written : value.Writes text) : (Document.string value).IsReadFrom text := by
  obtain ⟨inside, rfl⟩ := written.eq_cons
  refine ⟨1, by simp, fun fuel open_ rest _ => ?_⟩
  rw [Nat.add_comm, List.cons_append, readFrom?, skipSpace_cons _ (by decide)]
  simp [readString?_append written]

/-- A document is read from between its blanks; those behind it are left. -/
theorem Padded.IsBlank.read {item : Padded Document} (blank : item.IsBlank)
    (read : item.content.IsReadFrom item.text) :
    ∃ steps ≤ item.chars.length, ∀ fuel open_ rest, EndsNumeral rest →
      readFrom? (steps + fuel) .value open_ (item.chars ++ rest)
        = readFrom? fuel (.afterValue item.content) open_ (item.after ++ rest) := by
  obtain ⟨steps, bound, reads⟩ := read
  refine ⟨steps, ?_, fun fuel open_ rest ends => ?_⟩
  · simp only [Padded.chars, List.length_append]
    omega
  · rw [Padded.chars, List.append_assoc, readFrom?_congr (skipSpace_append blank.before _),
      List.append_assoc]
    exact reads fuel open_ _ (ends.append blank.after)

theorem commaChars_cons (text : List Char) (others : List (List Char)) :
    commaChars (text :: others) = ',' :: (text ++ commaChars others) := rfl

/-! ### Arrays -/

/-- Behind an item, a comma asks for the next one. -/
theorem readFrom?_comma {after : List Char} (blank : AreSpaces after) (fuel : Nat)
    (document : Document) (done : List Document) (open_ : List Frame) (rest : List Char) :
    readFrom? (fuel + 1) (.afterValue document) (.array done :: open_) (after ++ ',' :: rest)
      = readFrom? fuel .value (.array (document :: done) :: open_) rest := by
  rw [readFrom?, skipSpace_append blank, skipSpace_cons _ (by decide)]
  rfl

/-- Behind an item, a bracket closes the array. -/
theorem readFrom?_bracket {after : List Char} (blank : AreSpaces after) (fuel : Nat)
    (document : Document) (done : List Document) (open_ : List Frame) (rest : List Char) :
    readFrom? (fuel + 1) (.afterValue document) (.array done :: open_) (after ++ ']' :: rest)
      = readFrom? fuel (.afterValue (.array (document :: done).reverse)) open_ rest := by
  rw [readFrom?, skipSpace_append blank, skipSpace_cons _ (by decide)]
  rfl

/-- The items of an open array are read up to its end. -/
theorem readFrom?_items (first : Padded Document) (others : List (Padded Document))
    (blank : ∀ item ∈ first :: others, item.IsBlank)
    (read : ∀ item ∈ first :: others, item.content.IsReadFrom item.text) :
    ∃ steps ≤ first.chars.length + (commaChars (others.map Padded.chars)).length + 1,
      ∀ fuel done open_ rest,
        readFrom? (steps + fuel) .value (.array done :: open_)
            (first.chars ++ (commaChars (others.map Padded.chars) ++ ']' :: rest))
          = readFrom? fuel
              (.afterValue (.array (done.reverse ++ (first :: others).map Padded.content)))
              open_ rest := by
  have isBlank := blank first (List.mem_cons_self ..)
  obtain ⟨steps, bound, reads⟩ := isBlank.read (read first (List.mem_cons_self ..))
  induction others generalizing first steps with
  | nil =>
    refine ⟨steps + 1, Nat.add_le_add_right bound 1, fun fuel done open_ rest => ?_⟩
    rw [List.map_nil, commaChars, List.flatMap_nil, List.nil_append, Nat.add_right_comm,
      Nat.add_assoc, reads _ _ _ (endsNumeral_cons (by decide)), readFrom?_bracket isBlank.after,
      List.reverse_cons]
    rfl
  | cons next others ih =>
    have isBlankNext := blank next (by simp)
    obtain ⟨nextSteps, nextBound, nextReads⟩ := isBlankNext.read (read next (by simp))
    obtain ⟨otherSteps, otherBound, otherReads⟩ :=
      ih next (fun item mem => blank item (List.mem_cons_of_mem _ mem))
        (fun item mem => read item (List.mem_cons_of_mem _ mem)) isBlankNext nextSteps nextBound
        nextReads
    refine ⟨steps + 1 + otherSteps, ?_, fun fuel done open_ rest => ?_⟩
    · rw [List.map_cons, commaChars_cons, List.length_cons, List.length_append]
      omega
    · rw [List.map_cons, commaChars_cons, List.cons_append, List.append_assoc,
        show steps + 1 + otherSteps + fuel = steps + (otherSteps + fuel + 1) by omega,
        reads _ _ _ (endsNumeral_cons (by decide)), readFrom?_comma isBlank.after, otherReads]
      simp

/-- Blanks do not hide what a token begins with. -/
theorem Padded.IsBlank.skipSpace {Content : Type} {item : Padded Content} (blank : item.IsBlank)
    (starts : StartsValue item.text) (rest : List Char) :
    Json.skipSpace (item.chars ++ rest) = item.text ++ (item.after ++ rest) := by
  rw [Padded.chars, List.append_assoc, skipSpace_append blank.before, List.append_assoc,
    starts.skipSpace]

/-- A bracket with something behind it opens an array. -/
theorem readFrom?_openArray {rest : List Char} (filled : ∀ tail, skipSpace rest ≠ ']' :: tail)
    (fuel : Nat) (open_ : List Frame) :
    readFrom? (fuel + 1) .value open_ ('[' :: rest)
      = readFrom? fuel .value (.array [] :: open_) rest := by
  rw [readFrom?, skipSpace_cons _ (by decide), ← readFrom?_congr (skipSpace_skipSpace rest)]
  -- By `filled`, the reader takes the case in which the array does not end at once.
  simp only

/-- An array is read from its items, if these are. -/
theorem Document.isReadFrom_array {first : Padded Document} {others : List (Padded Document)}
    (blank : ∀ item ∈ first :: others, item.IsBlank) (starts : StartsValue first.text)
    (read : ∀ item ∈ first :: others, item.content.IsReadFrom item.text) :
    (Document.array ((first :: others).map Padded.content)).IsReadFrom
      ('[' :: (first.chars ++ (commaChars (others.map Padded.chars) ++ [']']))) := by
  obtain ⟨steps, bound, reads⟩ := readFrom?_items first others blank read
  refine ⟨steps + 1, ?_, fun fuel open_ rest _ => ?_⟩
  · simp only [List.length_cons, List.length_append]
    omega
  · have filled (tail rest : List Char) : Json.skipSpace (first.chars ++ rest) ≠ ']' :: tail := by
      rw [(blank first (List.mem_cons_self ..)).skipSpace starts]
      obtain ⟨head, others, text, _, bracket, _⟩ := starts
      rw [text]
      exact fun same => bracket (List.cons.inj same).1
    rw [List.cons_append, List.append_assoc, List.append_assoc, List.singleton_append,
      Nat.add_right_comm, readFrom?_openArray fun tail => filled tail _, reads]
    rfl

/-! ### Objects -/

/-- The name of a member is read up to its colon. -/
theorem readName?_append {name : Padded Quoted} (written : name.content.Writes name.text)
    (blank : name.IsBlank) (rest : List Char) :
    readName? (name.chars ++ ':' :: rest) = some (name.content, rest) := by
  obtain ⟨inside, text⟩ := written.eq_cons
  rw [text] at written
  have starts : skipSpace (name.chars ++ ':' :: rest)
      = '"' :: (inside ++ (name.after ++ ':' :: rest)) := by
    rw [Padded.chars, List.append_assoc, skipSpace_append blank.before, List.append_assoc, text,
      List.cons_append, skipSpace_cons _ (by decide)]
  have colon : skipSpace (name.after ++ ':' :: rest) = ':' :: rest := by
    rw [skipSpace_append blank.after, skipSpace_cons _ (by decide)]
  rw [readName?, starts]
  simp only [readString?_append written, colon, Option.bind_eq_bind, Option.bind_some]

/-- Behind a member, a comma and a name ask for the value of the next one. -/
theorem readFrom?_nextMember {after : List Char} (blank : AreSpaces after) {next : MemberText}
    (named : next.IsNamed) (fuel : Nat) (document : Document)
    (done : List (Quoted × Document)) (name : Quoted) (open_ : List Frame) (rest : List Char) :
    readFrom? (fuel + 1) (.afterValue document) (.object done name :: open_)
        (after ++ ',' :: (next.name.chars ++ ':' :: rest))
      = readFrom? fuel .value (.object ((name, document) :: done) next.name.content :: open_)
          rest := by
  rw [readFrom?, skipSpace_append blank, skipSpace_cons _ (by decide)]
  simp only [readName?_append named.written named.name]

/-- Behind a member, a brace closes the object. -/
theorem readFrom?_brace {after : List Char} (blank : AreSpaces after) (fuel : Nat)
    (document : Document) (done : List (Quoted × Document)) (name : Quoted) (open_ : List Frame)
    (rest : List Char) :
    readFrom? (fuel + 1) (.afterValue document) (.object done name :: open_) (after ++ '}' :: rest)
      = readFrom? fuel (.afterValue (.object ((name, document) :: done).reverse)) open_ rest := by
  rw [readFrom?, skipSpace_append blank, skipSpace_cons _ (by decide)]
  rfl

/-- The members of an open object are read up to its end, from behind the first name on. -/
theorem readFrom?_members (first : MemberText) (others : List MemberText)
    (named : ∀ member ∈ first :: others, member.IsNamed)
    (read : ∀ member ∈ first :: others, member.value.content.IsReadFrom member.value.text) :
    ∃ steps ≤ first.value.chars.length + (commaChars (others.map MemberText.chars)).length + 1,
      ∀ fuel done open_ rest,
        readFrom? (steps + fuel) .value (.object done first.name.content :: open_)
            (first.value.chars ++ (commaChars (others.map MemberText.chars) ++ '}' :: rest))
          = readFrom? fuel
              (.afterValue (.object (done.reverse ++ (first :: others).map MemberText.member)))
              open_ rest := by
  have isNamed := named first (List.mem_cons_self ..)
  obtain ⟨steps, bound, reads⟩ := isNamed.value.read (read first (List.mem_cons_self ..))
  induction others generalizing first steps with
  | nil =>
    refine ⟨steps + 1, Nat.add_le_add_right bound 1, fun fuel done open_ rest => ?_⟩
    rw [List.map_nil, commaChars, List.flatMap_nil, List.nil_append, Nat.add_right_comm,
      Nat.add_assoc, reads _ _ _ (endsNumeral_cons (by decide)),
      readFrom?_brace isNamed.value.after, List.reverse_cons]
    rfl
  | cons next others ih =>
    have isNamedNext := named next (by simp)
    obtain ⟨nextSteps, nextBound, nextReads⟩ := isNamedNext.value.read (read next (by simp))
    obtain ⟨otherSteps, otherBound, otherReads⟩ :=
      ih next (fun member mem => named member (List.mem_cons_of_mem _ mem))
        (fun member mem => read member (List.mem_cons_of_mem _ mem)) isNamedNext nextSteps nextBound
        nextReads
    refine ⟨steps + 1 + otherSteps, ?_, fun fuel done open_ rest => ?_⟩
    · rw [List.map_cons, commaChars_cons, MemberText.chars, List.length_cons, List.length_append,
        List.length_append, List.length_cons]
      omega
    · rw [List.map_cons, commaChars_cons, MemberText.chars, List.cons_append, List.append_assoc,
        List.append_assoc, List.cons_append,
        show steps + 1 + otherSteps + fuel = steps + (otherSteps + fuel + 1) by omega,
        reads _ _ _ (endsNumeral_cons (by decide)),
        readFrom?_nextMember isNamed.value.after isNamedNext, otherReads]
      simp [MemberText.member]

/-- A brace with a name behind it opens an object. -/
theorem readFrom?_openObject {first : MemberText} (named : first.IsNamed) (fuel : Nat)
    (open_ : List Frame) (rest : List Char) :
    readFrom? (fuel + 1) .value open_ ('{' :: (first.name.chars ++ ':' :: rest))
      = readFrom? fuel .value (.object [] first.name.content :: open_) rest := by
  obtain ⟨inside, text⟩ := named.written.eq_cons
  have starts : skipSpace (first.name.chars ++ ':' :: rest)
      = '"' :: (inside ++ (first.name.after ++ ':' :: rest)) := by
    rw [Padded.chars, List.append_assoc, skipSpace_append named.name.before, List.append_assoc,
      text, List.cons_append, skipSpace_cons _ (by decide)]
  have name : readName? ('"' :: (inside ++ (first.name.after ++ ':' :: rest)))
      = some (first.name.content, rest) := by
    rw [← readName?_append named.written named.name rest, readName?, readName?, starts,
      skipSpace_cons _ (by decide)]
  rw [readFrom?, skipSpace_cons _ (by decide)]
  simp [starts, name]

/-- An object is read from its members, if these are. -/
theorem Document.isReadFrom_object {first : MemberText} {others : List MemberText}
    (named : ∀ member ∈ first :: others, member.IsNamed)
    (read : ∀ member ∈ first :: others, member.value.content.IsReadFrom member.value.text) :
    (Document.object ((first :: others).map MemberText.member)).IsReadFrom
      ('{' :: (first.chars ++ (commaChars (others.map MemberText.chars) ++ ['}']))) := by
  obtain ⟨steps, bound, reads⟩ := readFrom?_members first others named read
  refine ⟨steps + 1, ?_, fun fuel open_ rest _ => ?_⟩
  · simp only [MemberText.chars, List.length_cons, List.length_append]
    omega
  · rw [MemberText.chars, List.cons_append, List.append_assoc, List.append_assoc, List.append_assoc,
      List.cons_append, List.singleton_append, Nat.add_right_comm,
      readFrom?_openObject (named first (List.mem_cons_self ..)), reads]
    rfl

/-- Every document is read from each of its texts. -/
theorem Document.Writes.isReadFrom {document : Document} {text : List Char}
    (written : document.Writes text) : document.IsReadFrom text := by
  have atOnce {document : Document} {text : List Char} (filled : 0 < text.length)
      (reads : ∀ fuel open_ rest, readFrom? (fuel + 1) .value open_ (text ++ rest)
        = readFrom? fuel (.afterValue document) open_ rest) : document.IsReadFrom text :=
    ⟨1, filled, fun fuel open_ rest _ => by rw [Nat.add_comm, reads]⟩
  induction written with
  | literalNull | literalTrue | literalFalse => exact atOnce (by decide) fun _ _ _ => rfl
  | number written => exact isReadFrom_number written
  | string written => exact isReadFrom_string written
  | emptyArray blank =>
    refine atOnce (Nat.succ_pos _) fun fuel open_ rest => ?_
    rw [List.cons_append, List.append_assoc, List.singleton_append, readFrom?,
      skipSpace_cons _ (by decide)]
    simp [skipSpace_append blank, skipSpace_cons rest, isSpace]
  | array blank written ih =>
    exact isReadFrom_array blank (written _ (List.mem_cons_self ..)).startsValue ih
  | emptyObject blank =>
    refine atOnce (Nat.succ_pos _) fun fuel open_ rest => ?_
    rw [List.cons_append, List.append_assoc, List.singleton_append, readFrom?,
      skipSpace_cons _ (by decide)]
    simp [skipSpace_append blank, skipSpace_cons rest, isSpace]
  | object named _ ih => exact isReadFrom_object named ih

/-- A whole text is read as the document that it writes. -/
theorem Document.IsText.read?_eq {document : Document} {text : String}
    (isText : document.IsText text) : read? text = some document := by
  obtain ⟨whole, blank, rfl, written, chars⟩ := isText
  obtain ⟨steps, bound, reads⟩ := blank.read written.isReadFrom
  have read := reads (2 * whole.chars.length + 2 - steps - 1 + 1) [] [] endsNumeral_nil
  rw [List.append_nil, List.append_nil,
    show steps + (2 * whole.chars.length + 2 - steps - 1 + 1) = 2 * whole.chars.length + 2 by omega]
    at read
  have nothing : skipSpace whole.after = [] := List.dropWhile_eq_nil_iff.mpr blank.after
  simp only [read?, chars, read]
  simp [nothing]

end ConfigDelivery.Json
