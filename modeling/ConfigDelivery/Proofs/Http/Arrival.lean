import ConfigDelivery.Http.Request
import Mathlib.Data.List.TakeDrop
/-!
# Requests as they arrive

What is known of a request depends on the bytes so far alone, not on how they were cut. The end of a
header section, once found, stays where it is, and bytes that end before it do not show it. So a
stream whose beginnings are all unfinished is refused when it ends, and one that comes to a result
comes to it however it is cut.
-/

namespace ConfigDelivery.Http

/-- The bytes that end a line. -/
def lineEnd : List UInt8 := [13, 10]

/-- The bytes that end a header section. -/
def headEnd : List UInt8 := lineEnd ++ lineEnd

/-! ## The end of a header section -/

/-- A head that is split off is followed by its end and the rest. -/
theorem splitHead_eq_some {bytes head rest : List UInt8}
    (split : splitHead bytes = some (head, rest)) : bytes = head ++ headEnd ++ rest := by
  fun_induction splitHead bytes generalizing head rest with
  | case1 after =>
    cases split
    rfl
  | case2 => cases split
  | case3 byte after _ ih =>
    obtain ⟨⟨first, body⟩, found, same⟩ := Option.map_eq_some_iff.mp split
    cases same
    rw [ih found]
    rfl

/-- A head that is split off leaves room for its end. -/
theorem length_of_splitHead {bytes head rest : List UInt8}
    (split : splitHead bytes = some (head, rest)) : head.length + 4 ≤ bytes.length := by
  rw [splitHead_eq_some split]
  simp only [headEnd, lineEnd, List.length_append, List.length_cons, List.length_nil]
  omega

/-- More bytes leave the end of a header section where it is. -/
theorem splitHead_append {bytes head rest : List UInt8}
    (split : splitHead bytes = some (head, rest)) (more : List UInt8) :
    splitHead (bytes ++ more) = some (head, rest ++ more) := by
  fun_induction splitHead bytes generalizing head rest with
  | case1 after =>
    cases split
    rfl
  | case2 => cases split
  | case3 byte after other ih =>
    obtain ⟨⟨first, body⟩, found, same⟩ := Option.map_eq_some_iff.mp split
    cases same
    -- the bytes behind hold an end of their own, so `byte` and `more` cannot make an earlier one
    obtain ⟨a, b, c, rest, rfl⟩ : ∃ a b c rest, after = a :: b :: c :: rest := by
      have long := length_of_splitHead found
      rcases after with _ | ⟨a, _ | ⟨b, _ | ⟨c, rest⟩⟩⟩
      · simp at long
      · simp at long
      · simp at long
      · exact ⟨a, b, c, rest, rfl⟩
    rw [List.cons_append, splitHead, ih found]
    · rfl
    · intro later first behind
      cases first
      cases behind
      exact other _ rfl rfl

/-- Bytes that break off before the end of their header section do not show it. -/
theorem splitHead_of_short {bytes missing head rest : List UInt8}
    (split : splitHead (bytes ++ missing) = some (head, rest))
    (short : bytes.length < head.length + 4) : splitHead bytes = none := by
  cases early : splitHead bytes with
  | none => rfl
  | some found =>
    obtain ⟨first, body⟩ := found
    have later := splitHead_append early missing
    rw [split] at later
    cases later
    have long := length_of_splitHead early
    omega

/-- A line that holds no carriage return does not end a header section. -/
theorem splitHead_line {line : List UInt8} (whole : 13 ∉ line) (rest : List UInt8) :
    splitHead (line ++ rest) = (splitHead rest).map fun (head, body) => (line ++ head, body) := by
  induction line with
  | nil => simp
  | cons byte line ih =>
    obtain ⟨different, whole⟩ := List.ne_and_not_mem_of_not_mem_cons whole
    rw [List.cons_append, splitHead, ih whole, Option.map_map]
    · rfl
    · intro later first _
      exact different first.symm

/-- The end of a line does not end a header section when another line follows. -/
theorem splitHead_lineEnd {byte : UInt8} (different : byte ≠ 13) (rest : List UInt8) :
    splitHead (lineEnd ++ byte :: rest)
      = (splitHead (byte :: rest)).map fun (head, body) => (lineEnd ++ head, body) := by
  rw [lineEnd, List.cons_append, splitHead, List.cons_append, List.nil_append, splitHead,
    Option.map_map]
  · rfl
  · intro later first _
    cases first
  · intro later _ behind
    cases behind
    exact different rfl

/-- A header section ends where the line behind its last line is empty. -/
theorem splitHead_lines {line : List UInt8} {lines : List (List UInt8)}
    (whole : ∀ other ∈ line :: lines, 13 ∉ other) (filled : ∀ other ∈ lines, other ≠ [])
    (rest : List UInt8) :
    splitHead (lineEnd.intercalate (line :: lines) ++ headEnd ++ rest)
      = some (lineEnd.intercalate (line :: lines), rest) := by
  induction lines generalizing line with
  | nil =>
    rw [List.intercalate_singleton, List.append_assoc, splitHead_line (whole line (by simp))]
    simp [headEnd, lineEnd, splitHead]
  | cons next lines ih =>
    obtain ⟨byte, others, rfl⟩ := List.exists_cons_of_ne_nil (filled next (by simp))
    have different : byte ≠ 13 := fun same => whole (byte :: others) (by simp) (by simp [same])
    have behind := ih (fun other mem => whole other (List.mem_cons_of_mem _ mem))
      fun other mem => filled other (List.mem_cons_of_mem _ mem)
    have starts : ∃ rest, lineEnd.intercalate ((byte :: others) :: lines) = byte :: rest := by
      cases lines with
      | nil => exact ⟨others, by simp⟩
      | cons => exact ⟨_, by rw [List.intercalate_cons_cons, List.cons_append, List.cons_append]⟩
    rw [List.intercalate_cons_cons]
    generalize lineEnd.intercalate ((byte :: others) :: lines) = joined at behind starts ⊢
    obtain ⟨tail, rfl⟩ := starts
    simp only [List.append_assoc, List.cons_append] at behind ⊢
    rw [splitHead_line (whole line (by simp)), splitHead_lineEnd different, behind]
    rfl

/-! ## Streams in pieces -/

section Pieces

variable {seen : List UInt8} {pieces : List (List UInt8)}

/-- What has been seen to its end is the result, whatever follows. -/
theorem readFrom_of_finished {result : Except Malformed Request}
    (finished : progress seen = .finished result) : readFrom seen pieces = result := by
  unfold readFrom
  rw [finished]

/-- A stream that ends too early is at fault. -/
theorem readFrom_of_end {fault : Malformed} (unfinished : progress seen = .unfinished fault) :
    readFrom seen [] = .error fault := by
  unfold readFrom
  rw [unfinished]

/-- Until the end is seen the next piece is read. -/
theorem readFrom_of_more {fault : Malformed} (unfinished : progress seen = .unfinished fault)
    (piece : List UInt8) : readFrom seen (piece :: pieces) = readFrom (seen ++ piece) pieces := by
  conv_lhs => unfold readFrom
  rw [unfinished]

/-- A stream that comes to a result comes to it however it is cut, if each of its beginnings comes
to the same or is unfinished. -/
theorem readFrom_eq (stream : List UInt8) {result : Except Malformed Request}
    (early : ∀ beginning, beginning <+: stream →
      progress beginning = .finished result ∨ ∃ fault, progress beginning = .unfinished fault)
    (last : progress stream = .finished result) (cut : seen ++ pieces.flatten = stream) :
    readFrom seen pieces = result := by
  induction pieces generalizing seen with
  | nil =>
    rw [List.flatten_nil, List.append_nil] at cut
    exact readFrom_of_finished (cut ▸ last)
  | cons piece pieces ih =>
    rcases early seen ⟨_, cut⟩ with finished | ⟨fault, unfinished⟩
    · exact readFrom_of_finished finished
    · rw [readFrom_of_more unfinished]
      refine ih ?_
      rw [List.append_assoc, ← List.flatten_cons, cut]

/-- A stream that ends while all of it is unfinished is refused for what is missing. -/
theorem readFrom_eq_error (stream : List UInt8) {fault : Malformed}
    (early : ∀ beginning, beginning <+: stream → ∃ fault, progress beginning = .unfinished fault)
    (last : progress stream = .unfinished fault) (cut : seen ++ pieces.flatten = stream) :
    readFrom seen pieces = .error fault := by
  induction pieces generalizing seen with
  | nil =>
    rw [List.flatten_nil, List.append_nil] at cut
    exact readFrom_of_end (cut ▸ last)
  | cons piece pieces ih =>
    obtain ⟨other, unfinished⟩ := early seen ⟨_, cut⟩
    rw [readFrom_of_more unfinished]
    refine ih ?_
    rw [List.append_assoc, ← List.flatten_cons, cut]

end Pieces

end ConfigDelivery.Http
