import ConfigDelivery.Text.Integer
import Mathlib.Data.List.TakeWhile
/-!
# Integers that are written in digits

A text of decimal digits, perhaps behind a plus sign, is read as the number that it writes, as long
as that is in range: the numbers that its beginnings write are no greater, so no digit on the way
leaves the range.
-/

namespace ConfigDelivery.Text

/-- A text writes a number: decimal digits, perhaps behind a plus sign. -/
def WritesNumber (text : String) (value : Nat) : Prop :=
  ∃ digits, digits ≠ [] ∧ (∀ digit ∈ digits, digit.isDigit = true) ∧
    (text.toList = digits ∨ text.toList = '+' :: digits) ∧ Nat.ofDigitChars 10 digits 0 = value

/-- A digit writes its number. -/
theorem writesNumber_digit {text : String} {digit : Char} {value : Nat}
    (isDigit : digit.isDigit = true) (chars : text.toList = [digit])
    (worth : Nat.ofDigitChars 10 [digit] 0 = value) : WritesNumber text value :=
  ⟨[digit], List.cons_ne_nil _ _, by simpa using isDigit, .inl chars, worth⟩

/-- A digit is read as its distance from zero. -/
theorem digit?_of_isDigit {character : Char} (digit : character.isDigit = true) :
    digit? character = some (character.toNat - '0'.toNat) := by
  have bounds : '0' ≤ character ∧ character ≤ '9' := by
    simpa [Char.isDigit, Char.le_def] using digit
  rw [digit?, if_pos bounds]

/-- What is no digit is not read as one. -/
theorem digit?_of_not_isDigit {character : Char} (foreign : character.isDigit = false) :
    digit? character = none := by
  have bounds : ¬ ('0' ≤ character ∧ character ≤ '9') := by
    simpa [Char.isDigit, Char.le_def] using foreign
  rw [digit?, if_neg bounds]

/-- Digits that are appended make a number no smaller. -/
theorem le_ofDigitChars (digits : List Char) (value : Nat) :
    value ≤ Nat.ofDigitChars 10 digits value := by
  induction digits generalizing value with
  | nil => exact Nat.le_refl _
  | cons digit digits ih =>
    calc value ≤ 10 * value + (digit.toNat - '0'.toNat) := by omega
      _ ≤ _ := ih _

/-- A digit is added behind what was read. -/
theorem foldUp_digit {high : Int} {digit : Char} (isDigit : digit.isDigit = true) (value : Nat)
    (rest : List Char) :
    foldUp high value (digit :: rest) =
      let next : Nat := 10 * value + (digit.toNat - '0'.toNat)
      if (next : Int) ≤ high then foldUp high next rest else .error .aboveRange := by
  have next : (value : Int) * 10 + (digit.toNat - '0'.toNat : Nat)
      = (10 * value + (digit.toNat - '0'.toNat) : Nat) := by
    push_cast
    omega
  rw [foldUp, digit?_of_isDigit isDigit]
  dsimp only
  rw [next]

/-- Reading goes on behind digits whose number is in range. -/
theorem foldUp_append {high : Int} {digits : List Char}
    (areDigits : ∀ digit ∈ digits, digit.isDigit = true) (value : Nat)
    (small : (Nat.ofDigitChars 10 digits value : Int) ≤ high) (rest : List Char) :
    foldUp high value (digits ++ rest)
      = foldUp high (Nat.ofDigitChars 10 digits value : Int) rest := by
  induction digits generalizing value with
  | nil => rfl
  | cons digit digits ih =>
    rw [Nat.ofDigitChars_cons] at small ⊢
    have grows := le_ofDigitChars digits (10 * value + (digit.toNat - '0'.toNat))
    rw [List.cons_append, foldUp_digit (areDigits digit (List.mem_cons_self ..)),
      if_pos (by omega)]
    exact ih (fun other mem => areDigits other (List.mem_cons_of_mem _ mem)) _ small

/-- Digits whose number is small enough are read as that number. -/
theorem foldUp_eq {high : Int} {digits : List Char}
    (areDigits : ∀ digit ∈ digits, digit.isDigit = true) (value : Nat)
    (small : (Nat.ofDigitChars 10 digits value : Int) ≤ high) :
    foldUp high value digits = .ok (Nat.ofDigitChars 10 digits value : Int) := by
  rw [← List.append_nil digits, foldUp_append areDigits value small, List.append_nil]
  rfl

/-- Digits whose number leaves the range end the reading, whatever stands behind them. -/
theorem foldUp_above {high : Int} {digits : List Char}
    (areDigits : ∀ digit ∈ digits, digit.isDigit = true) {value : Nat}
    (small : (value : Int) ≤ high) (above : high < (Nat.ofDigitChars 10 digits value : Int))
    (rest : List Char) : foldUp high value (digits ++ rest) = .error .aboveRange := by
  induction digits generalizing value with
  | nil => exact absurd small (Int.not_le.mpr above)
  | cons digit digits ih =>
    rw [Nat.ofDigitChars_cons] at above
    rw [List.cons_append, foldUp_digit (areDigits digit (List.mem_cons_self ..))]
    dsimp only
    split
    · rename_i inRange
      exact ih (fun other mem => areDigits other (List.mem_cons_of_mem _ mem)) inRange above
    · rfl

/-- A character that is no digit ends the reading, behind digits whose number is in range. -/
theorem foldUp_foreign {high : Int} {digits : List Char}
    (areDigits : ∀ digit ∈ digits, digit.isDigit = true) {value : Nat}
    (small : (Nat.ofDigitChars 10 digits value : Int) ≤ high) {character : Char}
    (foreign : character.isDigit = false) (rest : List Char) :
    foldUp high value (digits ++ character :: rest) = .error .foreignCharacter := by
  rw [foldUp_append areDigits value small, foldUp, digit?_of_not_isDigit foreign]

/-- A text that starts with a digit has no sign. -/
theorem readInteger_of_digit (range : IntegerRange) {text : String} {digit : Char}
    {digits : List Char} (chars : text.toList = digit :: digits) (isDigit : digit.isDigit = true) :
    readInteger range text = foldUp range.high 0 (digit :: digits) := by
  have notPlus : digit ≠ '+' := by
    rintro rfl
    exact absurd isDigit (by decide)
  have notMinus : digit ≠ '-' := by
    rintro rfl
    exact absurd isDigit (by decide)
  rw [readInteger, chars]
  split <;> simp_all

/-- A written number that is small enough is read. -/
theorem readInteger_of_writes (range : IntegerRange) {text : String} {value : Nat}
    (writes : WritesNumber text value) (small : (value : Int) ≤ range.high) :
    readInteger range text = .ok (value : Int) := by
  obtain ⟨digits, filled, areDigits, chars, rfl⟩ := writes
  have folded := foldUp_eq areDigits 0 small
  obtain ⟨digit, others, rfl⟩ := List.exists_cons_of_ne_nil filled
  rcases chars with chars | chars
  · rw [readInteger_of_digit range chars (areDigits digit (List.mem_cons_self ..))]
    exact folded
  · rw [readInteger, chars]
    exact folded

/-- A text is digits and then something else. -/
theorem exists_leading_digits (characters : List Char) :
    ∃ digits rest, characters = digits ++ rest ∧ (∀ digit ∈ digits, digit.isDigit = true) ∧
      ∀ character others, rest = character :: others → character.isDigit = false := by
  refine ⟨characters.takeWhile Char.isDigit, characters.dropWhile Char.isDigit,
    List.takeWhile_append_dropWhile.symm, fun _ mem => List.mem_takeWhile_imp mem, ?_⟩
  intro character others stops
  have first := List.head?_dropWhile_not Char.isDigit characters
  rwa [stops] at first

/-- Digits that have been read are digits all through, and write the number that was read. -/
theorem digits_of_foldUp {high result : Int} {characters : List Char}
    (read : foldUp high 0 characters = .ok result) (hasZero : 0 ≤ high) :
    (∀ digit ∈ characters, digit.isDigit = true) ∧
      result = (Nat.ofDigitChars 10 characters 0 : Int) ∧ result ≤ high := by
  obtain ⟨digits, rest, rfl, areDigits, ends⟩ := exists_leading_digits characters
  by_cases small : (Nat.ofDigitChars 10 digits 0 : Int) ≤ high
  · cases rest with
    | cons character rest =>
      have stopped := foldUp_foreign areDigits small (ends character rest rfl) rest
      rw [Int.ofNat_zero, read] at stopped
      cases stopped
    | nil =>
      have whole := foldUp_eq areDigits 0 small
      rw [List.append_nil] at read ⊢
      rw [Int.ofNat_zero, read] at whole
      cases whole
      exact ⟨areDigits, rfl, small⟩
  · have stopped := foldUp_above areDigits hasZero (Int.not_le.mp small) rest
    rw [Int.ofNat_zero, read] at stopped
    cases stopped

/-- Reading gives the numbers of a range without negative ones that texts write. -/
theorem readInteger_eq_ok_iff_writesNumber {range : IntegerRange} (unsigned : range.low = 0)
    (hasZero : 0 ≤ range.high) (text : String) (value : Int) :
    readInteger range text = .ok value ↔
      ∃ number, WritesNumber text number ∧ (number : Int) ≤ range.high ∧ value = number := by
  constructor
  · intro read
    unfold readInteger at read
    split at read
    · cases read
    · cases read
    · cases read
    · rename_i digits something chars
      obtain ⟨areDigits, rfl, small⟩ := digits_of_foldUp read hasZero
      refine ⟨_, ⟨digits, ?_, areDigits, .inr chars, rfl⟩, small, rfl⟩
      rintro rfl
      exact something rfl
    · rw [if_neg (by omega)] at read
      cases read
    · rename_i something _ _ _ _
      obtain ⟨areDigits, rfl, small⟩ := digits_of_foldUp read hasZero
      exact ⟨_, ⟨_, something, areDigits, .inl rfl, rfl⟩, small, rfl⟩
  · rintro ⟨number, writes, small, rfl⟩
    exact readInteger_of_writes range writes small

/-! ## Signed ranges -/

/-- The sign of a text, true for a minus, and the characters behind it. -/
def splitSign : List Char → Bool × List Char
  | '-' :: rest => (true, rest)
  | '+' :: rest => (false, rest)
  | rest => (false, rest)

/-- The integer of a sign and decimal digits. -/
def signedValue (negative : Bool) (digits : List Char) : Int :=
  if negative then -(Nat.ofDigitChars 10 digits 0) else Nat.ofDigitChars 10 digits 0

/-- A text writes an integer: decimal digits, perhaps behind one sign. -/
def WritesInteger (text : String) (value : Int) : Prop :=
  ∃ negative digits, splitSign text.toList = (negative, digits) ∧ digits ≠ [] ∧
    (∀ digit ∈ digits, digit.isDigit = true) ∧ value = signedValue negative digits

/-- Why a text writes no integer of a range: there is nothing in it or behind its sign, or its
digits are followed by another character before their number leaves the range, or it leaves it. -/
inductive IsRefused (range : IntegerRange) (text : String) : IntegerFault → Prop where
  | empty (nothing : text.toList = []) : IsRefused range text .empty
  | signAlone {negative} (parts : splitSign text.toList = (negative, []))
      (something : text.toList ≠ []) : IsRefused range text .foreignCharacter
  | foreignCharacter {negative digits character rest}
      (parts : splitSign text.toList = (negative, digits ++ character :: rest))
      (areDigits : ∀ digit ∈ digits, digit.isDigit = true) (foreign : character.isDigit = false)
      (low : range.low ≤ signedValue negative digits)
      (high : signedValue negative digits ≤ range.high) :
      IsRefused range text .foreignCharacter
  | aboveRange {digits rest} (parts : splitSign text.toList = (false, digits ++ rest))
      (areDigits : ∀ digit ∈ digits, digit.isDigit = true)
      (above : range.high < signedValue false digits) : IsRefused range text .aboveRange
  | belowRange {digits rest} (parts : splitSign text.toList = (true, digits ++ rest))
      (areDigits : ∀ digit ∈ digits, digit.isDigit = true)
      (below : signedValue true digits < range.low) : IsRefused range text .belowRange

/-- The outcome of reading a number, read behind a minus sign. -/
def negated : Except IntegerFault Int → Except IntegerFault Int
  | .ok value => .ok (-value)
  | .error .aboveRange => .error .belowRange
  | .error fault => .error fault

/-- Reading downwards is reading upwards with the other sign. -/
theorem foldDown_eq (low value : Int) (digits : List Char) :
    foldDown low value digits = negated (foldUp (-low) (-value) digits) := by
  induction digits generalizing value with
  | nil => simp [foldDown, foldUp, negated]
  | cons character rest ih =>
    rw [foldDown, foldUp]
    cases digit? character with
    | none => rfl
    | some digit =>
      have next : -value * 10 + (digit : Int) = -(value * 10 - digit) := by omega
      dsimp only
      rw [next, ih]
      by_cases inRange : low ≤ value * 10 - digit
      · rw [if_pos inRange, if_pos (by omega)]
      · rw [if_neg inRange, if_neg (by omega)]
        rfl

/-- How far a range reaches on the side of a sign. -/
def IntegerRange.reach (range : IntegerRange) (negative : Bool) : Int :=
  if negative then -range.low else range.high

/-- The outcome of reading a number, read behind a sign. -/
def behindSign (negative : Bool) (outcome : Except IntegerFault Int) : Except IntegerFault Int :=
  if negative then negated outcome else outcome

section Signed

variable {range : IntegerRange} {text : String} {negative : Bool} {body : List Char}

/-- A signed number is in the range if its digits are within the reach of its sign. -/
theorem inRange_iff_le_reach (isSigned : range.low < 0) (hasZero : 0 ≤ range.high)
    (negative : Bool) (digits : List Char) :
    (range.low ≤ signedValue negative digits ∧ signedValue negative digits ≤ range.high) ↔
      (Nat.ofDigitChars 10 digits 0 : Int) ≤ range.reach negative := by
  unfold signedValue IntegerRange.reach
  cases negative
  · simp only [Bool.false_eq_true, if_false]
    omega
  · simp only [if_true]
    omega

/-- The number behind a sign is read as far as the range reaches on its side. -/
theorem readInteger_of_splitSign (isSigned : range.low < 0)
    (parts : splitSign text.toList = (negative, body)) (filled : body ≠ []) :
    readInteger range text = behindSign negative (foldUp (range.reach negative) 0 body) := by
  unfold splitSign at parts
  unfold readInteger
  split at parts
  · cases parts
    rename_i chars
    obtain ⟨first, others, rfl⟩ := List.exists_cons_of_ne_nil filled
    rw [chars]
    simp only [if_pos isSigned, foldDown_eq]
    rfl
  · cases parts
    rename_i chars
    obtain ⟨first, others, rfl⟩ := List.exists_cons_of_ne_nil filled
    rw [chars]
    rfl
  · cases parts
    split <;> simp_all [behindSign, IntegerRange.reach]

/-- A written integer in the range is read. -/
theorem readInteger_of_writesInteger {value : Int} (isSigned : range.low < 0)
    (hasZero : 0 ≤ range.high) (writes : WritesInteger text value) (low : range.low ≤ value)
    (high : value ≤ range.high) : readInteger range text = .ok value := by
  obtain ⟨negative, digits, parts, filled, areDigits, rfl⟩ := writes
  have small := (inRange_iff_le_reach isSigned hasZero negative digits).mp ⟨low, high⟩
  have read := foldUp_eq areDigits 0 small
  rw [Int.ofNat_zero] at read
  rw [readInteger_of_splitSign isSigned parts filled, read]
  cases negative <;> rfl

/-- A text that is no integer in the range is refused for its fault. -/
theorem readInteger_of_isRefused {fault : IntegerFault} (isSigned : range.low < 0)
    (hasZero : 0 ≤ range.high) (refused : IsRefused range text fault) :
    readInteger range text = .error fault := by
  have nearZero : ∀ negative, ((0 : Nat) : Int) ≤ range.reach negative := by
    rintro (_ | _) <;>
      simp only [IntegerRange.reach, Bool.false_eq_true, if_false, if_true] <;> omega
  have outside {negative digits rest} (parts : splitSign text.toList = (negative, digits ++ rest))
      (areDigits : ∀ digit ∈ digits, digit.isDigit = true)
      (large : ¬ (range.low ≤ signedValue negative digits ∧
        signedValue negative digits ≤ range.high)) :
      readInteger range text = behindSign negative (.error .aboveRange) := by
    have above := Int.not_le.mp
      (mt (inRange_iff_le_reach isSigned hasZero negative digits).mpr large)
    have filled : digits ++ rest ≠ [] := by
      intro nothing
      obtain ⟨rfl, rfl⟩ := List.append_eq_nil_iff.mp nothing
      exact absurd (nearZero negative) (Int.not_le.mpr above)
    have read := foldUp_above areDigits (nearZero negative) above rest
    rw [Int.ofNat_zero] at read
    rw [readInteger_of_splitSign isSigned parts filled, read]
  cases refused with
  | empty nothing => rw [readInteger, nothing]
  | signAlone parts something =>
    unfold splitSign at parts
    unfold readInteger
    split at parts <;> simp_all
  | @foreignCharacter negative digits _ rest parts areDigits foreign low high =>
    have small := (inRange_iff_le_reach isSigned hasZero negative digits).mp ⟨low, high⟩
    have read := foldUp_foreign areDigits small foreign rest
    rw [Int.ofNat_zero] at read
    rw [readInteger_of_splitSign isSigned parts (by simp), read]
    cases negative <;> rfl
  | aboveRange parts areDigits above => exact outside parts areDigits (by omega)
  | belowRange parts areDigits below => exact outside parts areDigits (by omega)

/-- A text writes an integer of a range, or it is refused. -/
theorem writesInteger_or_isRefused (isSigned : range.low < 0) (hasZero : 0 ≤ range.high)
    (text : String) :
    (∃ value, WritesInteger text value ∧ range.low ≤ value ∧ value ≤ range.high) ∨
      ∃ fault, IsRefused range text fault := by
  rcases parts : splitSign text.toList with ⟨negative, body⟩
  obtain ⟨digits, rest, rfl, areDigits, ends⟩ := exists_leading_digits body
  by_cases inRange :
      range.low ≤ signedValue negative digits ∧ signedValue negative digits ≤ range.high
  · cases rest with
    | cons character rest =>
      exact .inr
        ⟨_, .foreignCharacter parts areDigits (ends character rest rfl) inRange.1 inRange.2⟩
    | nil =>
      rw [List.append_nil] at parts
      by_cases filled : digits = []
      · subst filled
        by_cases nothing : text.toList = []
        · exact .inr ⟨_, .empty nothing⟩
        · exact .inr ⟨_, .signAlone parts nothing⟩
      · exact .inl ⟨_, ⟨negative, digits, parts, filled, areDigits, rfl⟩, inRange⟩
  · unfold signedValue at inRange
    cases negative with
    | false => exact .inr ⟨_, .aboveRange parts areDigits (by simp [signedValue] at *; omega)⟩
    | true => exact .inr ⟨_, .belowRange parts areDigits (by simp [signedValue] at *; omega)⟩

/-- Reading gives the integers of a signed range that texts write. -/
theorem readInteger_eq_ok_iff (isSigned : range.low < 0) (hasZero : 0 ≤ range.high)
    (text : String) (value : Int) :
    readInteger range text = .ok value ↔
      WritesInteger text value ∧ range.low ≤ value ∧ value ≤ range.high := by
  constructor
  · intro read
    rcases writesInteger_or_isRefused isSigned hasZero text with
      ⟨other, writes, low, high⟩ | ⟨fault, refused⟩
    · have same := readInteger_of_writesInteger isSigned hasZero writes low high
      obtain rfl : value = other := Except.ok.inj (read.symm.trans same)
      exact ⟨writes, low, high⟩
    · cases read.symm.trans (readInteger_of_isRefused isSigned hasZero refused)
  · rintro ⟨writes, low, high⟩
    exact readInteger_of_writesInteger isSigned hasZero writes low high

/-- Reading refuses the other texts. -/
theorem readInteger_eq_error_iff (isSigned : range.low < 0) (hasZero : 0 ≤ range.high)
    (text : String) (fault : IntegerFault) :
    readInteger range text = .error fault ↔ IsRefused range text fault := by
  constructor
  · intro read
    rcases writesInteger_or_isRefused isSigned hasZero text with
      ⟨value, writes, low, high⟩ | ⟨other, refused⟩
    · cases read.symm.trans (readInteger_of_writesInteger isSigned hasZero writes low high)
    · have same := readInteger_of_isRefused isSigned hasZero refused
      obtain rfl : fault = other := Except.error.inj (read.symm.trans same)
      exact refused
  · exact readInteger_of_isRefused isSigned hasZero

end Signed

end ConfigDelivery.Text
