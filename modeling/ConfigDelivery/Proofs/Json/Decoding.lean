import ConfigDelivery.Json.Decode
import ConfigDelivery.Proofs.Json.Printing
/-!
# Typed data is read back

A decoder inverts the printer of its type, and whole numbers are read back from their decimal
digits. `ReadsBack` says so for documents; together with the reader it says so for texts.
-/

namespace ConfigDelivery.Json

/-! ## Whole numbers -/

/-- A natural number is written in digits. -/
theorem natDigits_all (value : Nat) : ∀ digit ∈ Text.natDigits value, isDigit digit = true :=
  fun _ mem => Nat.isDigit_of_mem_toDigits (by decide) (by decide) mem

/-- The digits of a natural number have it for a value. -/
theorem digitsValue_natDigits (value : Nat) :
    Numeral.digitsValue (Text.natDigits value) = value := by
  have folded : Nat.ofDigitChars 10 (Nat.toDigits 10 value) 0 = value :=
    Nat.ofDigitChars_ten_toDigits
  unfold Nat.ofDigitChars at folded
  simpa only [Numeral.digitsValue, Text.natDigits, Nat.mul_comm] using folded

/-- Only zero is written with a zero in front. -/
theorem natDigits_leading (value : Nat) (zero : (Text.natDigits value).head? = some '0') :
    Text.natDigits value = ['0'] := by
  induction value using Nat.strongRecOn with
  | ind value ih =>
    unfold Text.natDigits at zero ⊢
    rw [Nat.toDigits_eq_if (by decide)] at zero ⊢
    split at zero
    · rename_i small
      rw [if_pos small]
      simpa using zero
    · rename_i large
      have filled : Nat.toDigits 10 (value / 10) ≠ [] := Nat.toDigits_ne_nil
      obtain ⟨first, others, digits⟩ := List.exists_cons_of_ne_nil filled
      rw [digits, List.cons_append, List.head?_cons, ← List.head?_cons (l := others),
        ← digits] at zero
      have digits : Text.natDigits (value / 10) = ['0'] := ih _ (by omega) zero
      have nothing : value / 10 = 0 := by
        rw [← digitsValue_natDigits (value / 10), digits]
        rfl
      omega

/-- The digits of a natural number stand where a whole part may. -/
theorem areWhole_natDigits (value : Nat) : AreWhole (Text.natDigits value) where
  filled := Nat.toDigits_ne_nil
  all := natDigits_all value
  leading := natDigits_leading value

/-- An integer has a numeral that can be written. -/
theorem Numeral.isWritten_ofInt (value : Int) : (Numeral.ofInt value).IsWritten where
  whole := areWhole_natDigits _
  fraction := by simp [ofInt]
  power := by simp [ofInt]

/-- The numeral of an exact integer is read as that integer. -/
theorem Numeral.number?_ofInt {value : Int} (exact : ExactRange value) :
    (Numeral.ofInt value).number? = some (.integer value exact) := by
  have written : (if (ofInt value).negative then -(digitsValue (ofInt value).whole : Int)
      else digitsValue (ofInt value).whole) = value := by
    simp only [ofInt, digitsValue_natDigits, decide_eq_true_eq]
    split
    · omega
    · omega
  have unsigned : ¬ ((ofInt value).negative = true ∧ value = 0) := by
    rintro ⟨negative, rfl⟩
    cases negative
  have plain : ((ofInt value).fraction.isNone && (ofInt value).power.isNone) = true := rfl
  simp only [number?, if_pos plain, written, dif_pos exact, if_neg unsigned]

namespace Decoder

variable {Result : Type}

/-- A decoder reads the documents of a printer back, which nest `levels` arrays and objects. -/
def ReadsBack (decoder : Decoder Result) (document : Result → Document) (levels : Nat) : Prop :=
  ∀ value depth, levels ≤ depth → decoder depth (document value) = some value

theorem readsBack_string : ReadsBack string .ofString 0 := fun _ _ _ => rfl

theorem readsBack_bool : ReadsBack bool .bool 0 := fun _ _ _ => rfl

/-- An integer in the range is decoded as it was written. -/
theorem integer_ofInt {range : Text.IntegerRange} {value : Int} (depth : Nat)
    (low : range.low ≤ value) (high : value ≤ range.high) (exact : ExactRange value) :
    integer range depth (.ofInt value) = some value := by
  simp [integer, Document.ofInt, Numeral.number?_ofInt exact, low, high]

theorem readsBack_uint32 : ReadsBack uint32 (fun value => .ofInt value.toNat) 0 := by
  intro value depth _
  have bound : value.toNat < 2 ^ 32 := value.toNat_lt
  have read : integer .unsigned32 depth (.ofInt value.toNat) = some (value.toNat : Int) :=
    integer_ofInt depth (by simp [Text.IntegerRange.unsigned32])
      (by simp [Text.IntegerRange.unsigned32]; omega) (by unfold ExactRange; omega)
  simp [uint32, read]

theorem readsBack_int64 : ReadsBack int64 (fun value => .ofInt value.toInt) 0 := by
  intro value depth _
  have low : -2 ^ 63 ≤ value.toInt := value.le_toInt
  have high : value.toInt < 2 ^ 63 := value.toInt_lt
  have read : integer .signed64 depth (.ofInt value.toInt) = some value.toInt :=
    integer_ofInt depth (by simp [Text.IntegerRange.signed64]; omega)
      (by simp [Text.IntegerRange.signed64]; omega) (by unfold ExactRange; omega)
  simp [int64, read]

/-- Members whose names are texts have these names. -/
theorem textMembers?_text (members : List (String × Document)) :
    textMembers? (members.map fun (name, value) => (.text name, value)) = some members := by
  induction members with
  | nil => rfl
  | cons member others ih =>
    obtain ⟨name, document⟩ := member
    simp only [textMembers?, List.map_cons, List.mapM_cons] at ih ⊢
    rw [ih]
    rfl

/-- A text that was printed is read back by a decoder that reads its document back. -/
theorem ReadsBack.readText_render {decoder : Decoder Result} {document : Result → Document}
    {levels : Nat} (back : ReadsBack decoder document levels) (room : levels ≤ depthLimit)
    (written : ∀ value, (document value).IsWritten) (value : Result) :
    decoder.readText (document value).render = some value := by
  rw [readText, read?_render (written value)]
  exact back value depthLimit room

end Decoder

end ConfigDelivery.Json
