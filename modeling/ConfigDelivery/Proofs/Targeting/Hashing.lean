import ConfigDelivery.Proofs.Text.Utf8
import ConfigDelivery.Targeting.Rollout
import Mathlib.Data.UInt
/-!
# Which devices the hash tells apart

The factor of the hash has an inverse among the words, so a step of the hash loses nothing: from
different words it goes to different words, and so it does over different bytes. What two strings
have in common at their ends is then without effect on whether their hashes are equal. Strings that
differ in one byte have different hashes; and since the gray code comes last in what is hashed, the
devices that have the same hash are the same for all gray codes. Buckets are another matter: there
are only a hundred of them, and devices with different hashes share them.
-/

namespace ConfigDelivery.Targeting

/-! ## Steps that lose nothing -/

/-- The factor of the hash, with its inverse among the words. -/
def hashFactor : UInt32ˣ where
  val := hashPrime
  inv := 0x359c449b
  val_inv := by decide
  inv_val := by decide

theorem hashStep_eq (hash : UInt32) (byte : UInt8) :
    hashStep hash byte = (hash ^^^ byte.toUInt32) * hashFactor := rfl

/-- A step keeps different hashes apart. -/
theorem hashStep_left_inj {left right : UInt32} (byte : UInt8) :
    hashStep left byte = hashStep right byte ↔ left = right := by
  rw [hashStep_eq, hashStep_eq, Units.mul_left_inj, UInt32.xor_left_inj]

/-- A step keeps different bytes apart. -/
theorem hashStep_right_inj (hash : UInt32) {byte other : UInt8} :
    hashStep hash byte = hashStep hash other ↔ byte = other := by
  rw [hashStep_eq, hashStep_eq, Units.mul_left_inj, UInt32.xor_right_inj, UInt8.toUInt32_inj]

/-- Some bytes take the hash from different words to different words. -/
theorem foldl_hashStep_inj {left right : UInt32} (bytes : List UInt8) :
    bytes.foldl hashStep left = bytes.foldl hashStep right ↔ left = right := by
  induction bytes generalizing left right with
  | nil => rfl
  | cons byte rest ih => rw [List.foldl_cons, List.foldl_cons, ih, hashStep_left_inj]

/-- The hash of a string goes on from that of its beginning. -/
theorem fnv1a32_append (bytes suffix : List UInt8) :
    fnv1a32 (bytes ++ suffix) = suffix.foldl hashStep (fnv1a32 bytes) :=
  List.foldl_append

/-- Behind a common suffix two hashes are equal exactly if they were equal before it. -/
theorem fnv1a32_append_inj {left right : List UInt8} (suffix : List UInt8) :
    fnv1a32 (left ++ suffix) = fnv1a32 (right ++ suffix) ↔ fnv1a32 left = fnv1a32 right := by
  rw [fnv1a32_append, fnv1a32_append, foldl_hashStep_inj]

/-! ## Strings that differ in one byte -/

/-- Two strings of bytes have the same length and differ in exactly one position. -/
structure DifferOnce (left right : List UInt8) : Prop where
  length_eq : left.length = right.length
  position : ∃! position : Nat, left[position]? ≠ right[position]?

/-- Strings that have one byte exchanged differ once. -/
theorem differOnce_of_parts (before after : List UInt8) {byte other : UInt8}
    (differ : byte ≠ other) :
    DifferOnce (before ++ byte :: after) (before ++ other :: after) where
  length_eq := by simp
  position := by
    refine ⟨before.length, by simpa using differ, fun position differs => ?_⟩
    by_contra elsewhere
    apply differs
    rcases Nat.lt_or_gt_of_ne elsewhere with earlier | later
    · rw [List.getElem?_append_left earlier, List.getElem?_append_left earlier]
    · rw [List.getElem?_append_right later.le, List.getElem?_append_right later.le,
        List.getElem?_cons, List.getElem?_cons, if_neg (by omega), if_neg (by omega)]

/-- What stands before the position and what stands behind it is common to the two strings. -/
theorem DifferOnce.exists_parts {left right : List UInt8} (differ : DifferOnce left right) :
    ∃ before byte other after, byte ≠ other ∧
      left = before ++ byte :: after ∧ right = before ++ other :: after := by
  obtain ⟨sameLength, position, differs, alone⟩ := differ
  have same {index : Nat} (elsewhere : index ≠ position) : left[index]? = right[index]? :=
    not_not.mp (mt (alone index) elsewhere)
  have inLeft : position < left.length := by
    by_contra outside
    apply differs
    rw [List.getElem?_eq_none (by omega), List.getElem?_eq_none (by omega)]
  have inRight : position < right.length := sameLength ▸ inLeft
  have changed : right = left.set position right[position] := by
    apply List.ext_getElem?
    intro index
    rcases eq_or_ne index position with rfl | elsewhere
    · rw [List.getElem?_set_self inLeft, List.getElem?_eq_getElem inRight]
    · rw [List.getElem?_set_ne elsewhere.symm, same elsewhere]
  rw [List.set_eq_take_append_cons_drop, if_pos inLeft] at changed
  refine ⟨left.take position, left[position], right[position], left.drop (position + 1),
    ?_, ?_, changed⟩
  · rw [List.getElem?_eq_getElem inLeft, List.getElem?_eq_getElem inRight] at differs
    exact fun equal => differs (congrArg some equal)
  · rw [← List.drop_eq_getElem_cons inLeft, List.take_append_drop]

/-- Strings that differ once have different hashes. -/
theorem DifferOnce.fnv1a32_ne {left right : List UInt8} (differ : DifferOnce left right) :
    fnv1a32 left ≠ fnv1a32 right := by
  obtain ⟨before, byte, other, after, differs, rfl, rfl⟩ := differ.exists_parts
  -- the common end goes first; what is left are two steps from the hash of the common beginning
  rw [List.append_cons before byte, List.append_cons before other, Ne, fnv1a32_append_inj,
    fnv1a32_append, fnv1a32_append]
  exact mt (hashStep_right_inj _).mp differs

/-! ## Devices under a gray code -/

/-- The hash of a device under a gray code, whose remainder is its bucket. -/
def rolloutHash (deviceId grayCodeId : String) : UInt32 :=
  fnv1a32 (deviceId ++ grayCodeId).toUTF8.toList

/-- The bucket of a device is its hash modulo hundred. -/
theorem bucket_eq (deviceId grayCodeId : String) :
    bucket deviceId grayCodeId = (rolloutHash deviceId grayCodeId).toNat % 100 := rfl

/-- A device is hashed by its bytes and then those of the gray code. -/
theorem rolloutHash_eq (deviceId grayCodeId : String) :
    rolloutHash deviceId grayCodeId
      = fnv1a32 (Text.encodeUtf8 deviceId ++ Text.encodeUtf8 grayCodeId) := by
  rw [rolloutHash, Text.toList_toUTF8, Text.encodeUtf8_append]

/-- Devices have the same hash under a gray code exactly if their identifiers have. -/
theorem rolloutHash_inj {deviceId otherId : String} (grayCodeId : String) :
    rolloutHash deviceId grayCodeId = rolloutHash otherId grayCodeId ↔
      fnv1a32 (Text.encodeUtf8 deviceId) = fnv1a32 (Text.encodeUtf8 otherId) := by
  rw [rolloutHash_eq, rolloutHash_eq, fnv1a32_append_inj]

/-- The hash tells strings apart that differ in one byte, and a common suffix neither merges hashes
nor separates them. So devices that differ in one byte have different hashes under every gray code,
and any two devices that have different hashes under one gray code have them under all. -/
theorem fnv1a32_keeps_apart :
    (∀ left right : List UInt8, DifferOnce left right → fnv1a32 left ≠ fnv1a32 right) ∧
    (∀ left right suffix : List UInt8,
      fnv1a32 (left ++ suffix) = fnv1a32 (right ++ suffix) ↔ fnv1a32 left = fnv1a32 right) ∧
    ∀ deviceId otherId grayCodeId : String,
      (DifferOnce (Text.encodeUtf8 deviceId) (Text.encodeUtf8 otherId) →
        rolloutHash deviceId grayCodeId ≠ rolloutHash otherId grayCodeId) ∧
      ∀ otherCodeId : String,
        rolloutHash deviceId grayCodeId ≠ rolloutHash otherId grayCodeId ↔
          rolloutHash deviceId otherCodeId ≠ rolloutHash otherId otherCodeId := by
  refine ⟨fun _ _ differ => differ.fnv1a32_ne, fun _ _ suffix => fnv1a32_append_inj suffix, ?_⟩
  intro deviceId otherId grayCodeId
  refine ⟨fun differ => ?_, fun otherCodeId => ?_⟩
  · exact mt (rolloutHash_inj grayCodeId).mp differ.fnv1a32_ne
  · rw [Ne, Ne, rolloutHash_inj, rolloutHash_inj]

/-- Two desks whose numbers differ in the last digit are told apart under every gray code, and two
that have the same hash without one have it under every gray code. -/
theorem fnv1a32_keeps_apart_desks :
    DifferOnce (Text.encodeUtf8 "desk_598") (Text.encodeUtf8 "desk_599") ∧
    rolloutHash "desk_598" "" = rolloutHash "desk-81432" "" ∧
    ∀ grayCodeId, rolloutHash "desk_598" grayCodeId ≠ rolloutHash "desk_599" grayCodeId ∧
      rolloutHash "desk_598" grayCodeId = rolloutHash "desk-81432" grayCodeId := by
  obtain ⟨-, -, devices⟩ := fnv1a32_keeps_apart
  have differ : DifferOnce (Text.encodeUtf8 "desk_598") (Text.encodeUtf8 "desk_599") :=
    differOnce_of_parts (Text.encodeUtf8 "desk_59") [] (by decide : '8'.toUInt8 ≠ '9'.toUInt8)
  have merged : rolloutHash "desk_598" "" = rolloutHash "desk-81432" "" :=
    (rolloutHash_inj "").mpr (by decide)
  refine ⟨differ, merged, fun grayCodeId => ⟨(devices _ _ grayCodeId).1 differ, ?_⟩⟩
  by_contra apart
  exact ((devices _ _ grayCodeId).2 "").mp apart merged

end ConfigDelivery.Targeting
