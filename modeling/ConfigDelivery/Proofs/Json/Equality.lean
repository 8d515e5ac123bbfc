import ConfigDelivery.Json.Value
/-!
# Equality of values

Whether two values are the same is decidable. Comparing values by their numbers is coarser: a zero
with a minus sign equals one without, and nothing else that differs is equal.
-/

namespace ConfigDelivery

open ConfigDelivery.Decimal (Binary64)

/-! ## Numbers -/

/-- Only the zeros have no mantissa. -/
theorem Decimal.Binary64.mantissa_eq_zero_iff (number : Binary64) :
    number.mantissa = 0 ↔ number = .zero true ∨ number = .zero false := by
  obtain ⟨bits⟩ := number
  have bound : bits.toNat < 0x10000000000000000 := bits.toNat_lt
  have isZero (negative : Bool) : (⟨bits⟩ : Binary64) = zero negative ↔
      bits.toNat = if negative then signBit else 0 := by
    rw [zero, ofFields, mk.injEq, ← UInt64.toNat_inj]
    cases negative <;> rfl
  rw [isZero, isZero]
  unfold mantissa
  split <;> rename_i field <;>
    simp only [exponentField, fractionField, leadingBit, topField, signBit, if_true,
      Bool.false_eq_true, if_false] at field ⊢ <;>
    omega

namespace Json

/-- A number without the sign of a zero. -/
def Number.unsigned : Number → Number
  | .integer value exact => .integer value exact
  | .float value => .float (if value = .zero true then .zero false else value)

/-- Numbers are the same if they are up to the signs of their zeros. -/
theorem Number.same_iff (left right : Number) :
    left.same right = true ↔ left.unsigned = right.unsigned := by
  cases left with
  | integer value exact => cases right <;> simp [same, unsigned]
  | float left =>
    cases right with
    | integer value exact => simp [same, unsigned]
    | float right =>
      have finite {number : Binary64} (isZero : number = .zero true ∨ number = .zero false) :
          number.isFinite = true := by
        rcases isZero with rfl | rfl <;> rfl
      simp only [same, unsigned, float.injEq, Binary64.sameValue, Bool.or_eq_true,
        Bool.and_eq_true, decide_eq_true_eq, Binary64.mantissa_eq_zero_iff]
      grind

namespace Value

/-! ## Values without the signs of their zeros -/

mutual

/-- A value without the signs of its zeros. -/
def unsigned : Value → Value
  | .null => .null
  | .bool value => .bool value
  | .number value => .number value.unsigned
  | .string value => .string value
  | .array items => .array (unsignedItems items)
  | .object members => .object (unsignedMembers members)

/-- Array items without the signs of their zeros. -/
def unsignedItems : List Value → List Value
  | [] => []
  | item :: rest => unsigned item :: unsignedItems rest

/-- Object members without the signs of their zeros. -/
def unsignedMembers : List (String × Value) → List (String × Value)
  | [] => []
  | (name, value) :: rest => (name, unsigned value) :: unsignedMembers rest

end

mutual

/-- Comparing values is comparing them without the signs of their zeros. -/
theorem same_iff (left right : Value) :
    left.same right = true ↔ left.unsigned = right.unsigned := by
  cases left with
  | null | bool | string => cases right <;> simp [same, unsigned]
  | number left =>
    cases right with
    | number right => simp [same, unsigned, Number.same_iff]
    | _ => simp [same, unsigned]
  | array items =>
    cases right with
    | array others => simp [same, unsigned, sameItems_iff items others]
    | _ => simp [same, unsigned]
  | object members =>
    cases right with
    | object others => simp [same, unsigned, sameMembers_iff members others]
    | _ => simp [same, unsigned]

theorem sameItems_iff (lefts rights : List Value) :
    sameItems lefts rights = true ↔ unsignedItems lefts = unsignedItems rights := by
  cases lefts with
  | nil => cases rights <;> simp [sameItems, unsignedItems]
  | cons left lefts =>
    cases rights with
    | nil => simp [sameItems, unsignedItems]
    | cons right rights =>
      simp [sameItems, unsignedItems, same_iff left right, sameItems_iff lefts rights]

theorem sameMembers_iff (lefts rights : List (String × Value)) :
    sameMembers lefts rights = true ↔ unsignedMembers lefts = unsignedMembers rights := by
  cases lefts with
  | nil => cases rights <;> simp [sameMembers, unsignedMembers]
  | cons left lefts =>
    obtain ⟨name, left⟩ := left
    cases rights with
    | nil => simp [sameMembers, unsignedMembers]
    | cons right rights =>
      simp [sameMembers, unsignedMembers, same_iff left right.2, sameMembers_iff lefts rights]

end

/-! ## The same value -/

mutual

/-- The test for equal values. -/
def isEqual : Value → Value → Bool
  | .null, .null => true
  | .bool left, .bool right => left == right
  | .number left, .number right => decide (left = right)
  | .string left, .string right => left == right
  | .array left, .array right => areEqualItems left right
  | .object left, .object right => areEqualMembers left right
  | _, _ => false

/-- The test for equal items. -/
def areEqualItems : List Value → List Value → Bool
  | [], [] => true
  | left :: lefts, right :: rights => isEqual left right && areEqualItems lefts rights
  | _, _ => false

/-- The test for equal members. -/
def areEqualMembers : List (String × Value) → List (String × Value) → Bool
  | [], [] => true
  | (name, left) :: lefts, (name', right) :: rights =>
    name == name' && isEqual left right && areEqualMembers lefts rights
  | _, _ => false

end

mutual

/-- Values are found equal if they are one value. -/
theorem isEqual_iff (left right : Value) : left.isEqual right = true ↔ left = right := by
  cases left with
  | null | bool | number | string => cases right <;> simp [isEqual]
  | array items =>
    cases right with
    | array others => simp [isEqual, areEqualItems_iff items others]
    | _ => simp [isEqual]
  | object members =>
    cases right with
    | object others => simp [isEqual, areEqualMembers_iff members others]
    | _ => simp [isEqual]

theorem areEqualItems_iff (lefts rights : List Value) :
    areEqualItems lefts rights = true ↔ lefts = rights := by
  cases lefts with
  | nil => cases rights <;> simp [areEqualItems]
  | cons left lefts =>
    cases rights with
    | nil => simp [areEqualItems]
    | cons right rights =>
      simp [areEqualItems, isEqual_iff left right, areEqualItems_iff lefts rights]

theorem areEqualMembers_iff (lefts rights : List (String × Value)) :
    areEqualMembers lefts rights = true ↔ lefts = rights := by
  cases lefts with
  | nil => cases rights <;> simp [areEqualMembers]
  | cons left lefts =>
    obtain ⟨name, left⟩ := left
    cases rights with
    | nil => simp [areEqualMembers]
    | cons right rights =>
      simp [areEqualMembers, isEqual_iff left right.2, areEqualMembers_iff lefts rights,
        Prod.ext_iff]

end

instance : DecidableEq Value := fun left right => decidable_of_iff _ (isEqual_iff left right)

end Value

end Json

end ConfigDelivery
