import ConfigDelivery.Proofs.Http.RoundTrip
/-!
# The limit of a header section

Whether a header section is too large is asked between two reads, when its end has not been seen
yet. So the answer depends on where the reads end: a stream is refused for its header section iff
some read ends beyond the limit and before the end of the section. No read can end there in a
section that is at most one byte longer than the limit, and some read has to in one that is longer
than the limit and a whole read; the sections between these are accepted or refused as the stream
happens to be cut.
-/

namespace ConfigDelivery.Http

/-- The header section of a stream is that long: the bytes up to the end of the first empty line. -/
structure IsHeaderSection (stream : List UInt8) (length : Nat) : Prop where
  within : length ≤ stream.length
  ends : headEnd <:+ stream.take length
  first : ∀ shorter < length, ¬ headEnd <:+ stream.take shorter

/-- Pieces of a stream as reads give them: none is empty or longer than a read can be. -/
def AreReads (pieces : List (List UInt8)) : Prop :=
  ∀ piece ∈ pieces, 1 ≤ piece.length ∧ piece.length ≤ pieceBytes

/-- The bytes that have been read after some pieces. -/
def readAfter (pieces : List (List UInt8)) (count : Nat) : List UInt8 := (pieces.take count).flatten

/-- Some piece ends beyond the limit and before the end of the header section, if there is one. -/
def Overruns (pieces : List (List UInt8)) : Prop :=
  ∃ count, maxHeaderBytes < (readAfter pieces count).length ∧
    ∀ length, IsHeaderSection pieces.flatten length → (readAfter pieces count).length < length

/-! ## Where a header section ends -/

/-- A byte in front moves the end of a head by one byte at most. -/
theorem splitHead_cons {behind head after : List UInt8}
    (found : splitHead behind = some (head, after)) (byte : UInt8) :
    ∃ head' after', splitHead (byte :: behind) = some (head', after') ∧
      head'.length ≤ head.length + 1 := by
  unfold splitHead
  split
  · exact ⟨[], _, rfl, Nat.zero_le _⟩
  · contradiction
  · rename_i same
    cases same
    rw [found]
    exact ⟨byte :: head, after, rfl, Nat.le_refl _⟩

/-- An end of a header section is not overlooked. -/
theorem exists_splitHead (front rest : List UInt8) :
    ∃ head after, splitHead (front ++ headEnd ++ rest) = some (head, after) ∧
      head.length ≤ front.length := by
  induction front with
  | nil => exact ⟨[], rest, rfl, Nat.le_refl 0⟩
  | cons byte front ih =>
    obtain ⟨head, after, found, short⟩ := ih
    obtain ⟨head', after', found', short'⟩ := splitHead_cons found byte
    refine ⟨head', after', found', ?_⟩
    rw [List.length_cons]
    omega

/-- A header section is a head and its end. -/
theorem isHeaderSection_iff {stream : List UInt8} {length : Nat} :
    IsHeaderSection stream length ↔
      ∃ head rest, splitHead stream = some (head, rest) ∧ length = head.length + 4 := by
  constructor
  · rintro ⟨within, ⟨front, ends⟩, first⟩
    obtain ⟨head, rest, found, short⟩ := exists_splitHead front (stream.drop length)
    rw [ends, List.take_append_drop] at found
    refine ⟨head, rest, found, ?_⟩
    have whole : front.length + 4 = length := by
      have lengths := congrArg List.length ends
      rw [List.length_append, List.length_take, Nat.min_eq_left within] at lengths
      exact lengths
    have ended : headEnd <:+ stream.take (head.length + 4) := by
      rw [splitHead_eq_some found, List.take_left' (by simp [headEnd, lineEnd])]
      exact List.suffix_append head headEnd
    have notShorter : ¬ head.length + 4 < length := fun shorter => first _ shorter ended
    omega
  · rintro ⟨head, rest, found, rfl⟩
    refine ⟨length_of_splitHead found, ?_, fun shorter short ended => ?_⟩
    · rw [splitHead_eq_some found, List.take_left' (by simp [headEnd, lineEnd])]
      exact List.suffix_append head headEnd
    · obtain ⟨front, ends⟩ := ended
      obtain ⟨_, _, early, _⟩ := exists_splitHead front []
      rw [ends, List.append_nil] at early
      have later : splitHead (stream.take shorter ++ stream.drop shorter) = some (head, rest) := by
        rw [List.take_append_drop, found]
      rw [splitHead_of_short later] at early
      · cases early
      · rw [List.length_take]
        omega

/-- Bytes hide the end of a header section iff they break off before it, whatever comes behind. -/
theorem splitHead_eq_none_iff {seen more : List UInt8} :
    splitHead seen = none ↔
      ∀ length, IsHeaderSection (seen ++ more) length → seen.length < length := by
  constructor
  · intro hidden length isSection
    obtain ⟨head, rest, found, rfl⟩ := isHeaderSection_iff.mp isSection
    by_contra long
    have begins : head ++ headEnd <+: seen := by
      apply List.prefix_of_prefix_length_le _ (List.prefix_append seen more)
      · simp only [headEnd, lineEnd, List.length_append, List.length_cons, List.length_nil]
        omega
      · exact ⟨rest, (splitHead_eq_some found).symm⟩
    obtain ⟨tail, rfl⟩ := begins
    obtain ⟨_, _, shown, _⟩ := exists_splitHead head tail
    rw [hidden] at shown
    cases shown
  · intro behind
    cases early : splitHead seen with
    | none => rfl
    | some split =>
      obtain ⟨head, rest⟩ := split
      have found := splitHead_append early more
      have short := behind _ (isHeaderSection_iff.mpr ⟨head, rest ++ more, found, rfl⟩)
      have long := length_of_splitHead early
      omega

/-- What was read so far comes before what is still to be read. -/
theorem readAfter_prefix (pieces : List (List UInt8)) (count : Nat) :
    readAfter pieces count ++ (pieces.drop count).flatten = pieces.flatten := by
  rw [readAfter, ← List.flatten_append, List.take_append_drop]

/-- Pieces overrun the limit if at some point more is read than may be and no head has ended. -/
theorem overruns_iff {pieces : List (List UInt8)} :
    Overruns pieces ↔ ∃ count, maxHeaderBytes < (readAfter pieces count).length ∧
      splitHead (readAfter pieces count) = none := by
  refine exists_congr fun count => and_congr_right fun _ => ?_
  rw [@splitHead_eq_none_iff _ (pieces.drop count).flatten, readAfter_prefix]

/-- The header section of a written request is its head. -/
theorem WrittenHead.IsProper.isHeaderSection {head : WrittenHead} (proper : head.IsProper)
    (rest : List UInt8) : IsHeaderSection (head.bytes ++ rest) head.bytes.length :=
  isHeaderSection_iff.mpr ⟨head.bareBytes, rest, proper.splitHead rest, head.length_bytes⟩

/-! ## Reads that stop in time, and others -/

/-- A result that rests on a whole header section stays when more bytes come. -/
theorem progress_append {seen : List UInt8} {result : Except Malformed Request}
    (shown : splitHead seen ≠ none) (finished : progress seen = .finished result)
    (more : List UInt8) : progress (seen ++ more) = .finished result := by
  obtain ⟨⟨head, rest⟩, found⟩ := Option.ne_none_iff_exists'.mp shown
  rw [progress, found] at finished
  rw [progress, splitHead_append found more]
  dsimp only at finished ⊢
  cases read : Head.read head with
  | error fault =>
    rw [read] at finished
    exact finished
  | ok head =>
    rw [read] at finished
    dsimp only at finished ⊢
    by_cases short : rest.length < head.length
    · rw [if_pos short] at finished
      cases finished
    · rw [if_neg short] at finished
      rw [if_neg (by rw [List.length_append]; omega),
        List.take_append_of_le_length (Nat.le_of_not_lt short)]
      exact finished

/-- What a stream comes to that is read at one go. -/
def settled (stream : List UInt8) : Except Malformed Request :=
  match progress stream with
  | .finished result => result
  | .unfinished fault => .error fault

/-- Without another piece, what is seen settles the request. -/
theorem readFrom_nil (seen : List UInt8) : readFrom seen [] = settled seen := by
  cases now : progress seen with
  | finished result => rw [readFrom_of_finished now, settled, now]
  | unfinished fault => rw [readFrom_of_end now, settled, now]

/-- A stream in one piece is settled as it is. -/
theorem readRequest_whole (stream : List UInt8) : readRequest [stream] = settled stream := by
  rw [readRequest, readFrom_of_more rfl, List.nil_append, readFrom_nil]

/-- A stream that is cut where no cut matters is read as a whole. -/
theorem readFrom_eq_settled {seen : List UInt8} {pieces : List (List UInt8)}
    (inTime : ∀ count, maxHeaderBytes < (seen ++ readAfter pieces count).length →
      splitHead (seen ++ readAfter pieces count) ≠ none) :
    readFrom seen pieces = settled (seen ++ pieces.flatten) := by
  induction pieces generalizing seen with
  | nil => rw [List.flatten_nil, List.append_nil, readFrom_nil]
  | cons piece pieces ih =>
    cases now : progress seen with
    | unfinished fault =>
      rw [readFrom_of_more now, ih]
      · rw [List.append_assoc, List.flatten_cons]
      · intro count
        have later := inTime (count + 1)
        rwa [readAfter, List.take_succ_cons, List.flatten_cons, ← List.append_assoc] at later
    | finished result =>
      have shown : splitHead seen ≠ none := by
        have here := inTime 0
        rw [readAfter, List.take_zero, List.flatten_nil, List.append_nil] at here
        intro hidden
        rw [progress, hidden] at now
        dsimp only at now
        split at now
        · rename_i large
          exact here large hidden
        · cases now
      rw [readFrom_of_finished now, settled, progress_append shown now]

/-- A stream is refused as soon as a read ends beyond the limit and before the end of the
section. -/
theorem readFrom_of_overrun {seen : List UInt8} {pieces : List (List UInt8)} {count : Nat}
    (beyond : maxHeaderBytes < (seen ++ readAfter pieces count).length)
    (hidden : splitHead (seen ++ readAfter pieces count) = none) :
    readFrom seen pieces = .error .headersTooLarge := by
  induction count generalizing seen pieces with
  | zero =>
    rw [readAfter, List.take_zero, List.flatten_nil, List.append_nil] at beyond hidden
    apply readFrom_of_finished
    rw [progress, hidden]
    exact if_pos beyond
  | succ count ih =>
    have hiddenNow : splitHead seen = none := by
      cases early : splitHead seen with
      | none => rfl
      | some split => rw [splitHead_append early] at hidden; cases hidden
    by_cases large : maxHeaderBytes < seen.length
    · apply readFrom_of_finished
      rw [progress, hiddenNow]
      exact if_pos large
    · cases pieces with
      | nil =>
        rw [readAfter, List.take_nil, List.flatten_nil, List.append_nil] at beyond
        exact absurd beyond large
      | cons piece pieces =>
        have unfinished : progress seen = .unfinished .headersCutShort := by
          rw [progress, hiddenNow]
          exact if_neg large
        rw [readAfter, List.take_succ_cons, List.flatten_cons, ← List.append_assoc]
          at beyond hidden
        rw [readFrom_of_more unfinished]
        exact ih beyond hidden

/-- Pieces that overrun the limit are refused for that. -/
theorem readRequest_of_overruns {pieces : List (List UInt8)} (overruns : Overruns pieces) :
    readRequest pieces = .error .headersTooLarge := by
  obtain ⟨count, beyond, hidden⟩ := overruns_iff.mp overruns
  exact readFrom_of_overrun beyond hidden

/-- Pieces that do not overrun the limit are read as the stream in one piece. -/
theorem readRequest_of_not_overruns {pieces : List (List UInt8)} (inTime : ¬ Overruns pieces) :
    readRequest pieces = readRequest [pieces.flatten] := by
  rw [readRequest_whole, readRequest, readFrom_eq_settled, List.nil_append]
  intro count beyond hidden
  exact inTime (overruns_iff.mpr ⟨count, beyond, hidden⟩)

/-! ## Sections that no read can cut, and sections that some read has to -/

/-- A section that is at most one byte longer than the limit leaves no room for a cut between. -/
theorem not_overruns_of_short {pieces : List (List UInt8)} {length : Nat}
    (isSection : IsHeaderSection pieces.flatten length) (short : length ≤ maxHeaderBytes + 1) :
    ¬ Overruns pieces := by
  rintro ⟨count, beyond, behind⟩
  have before := behind length isSection
  omega

/-- Some read ends not far behind a byte that the stream has. -/
theorem exists_readAfter {pieces : List (List UInt8)} {bound limit : Nat}
    (small : ∀ piece ∈ pieces, piece.length ≤ bound) (long : limit < pieces.flatten.length) :
    ∃ count, limit < (readAfter pieces count).length ∧
      (readAfter pieces count).length ≤ limit + bound := by
  induction pieces generalizing limit with
  | nil => cases long
  | cons piece pieces ih =>
    have first := small piece (List.mem_cons_self ..)
    by_cases here : limit < piece.length
    · refine ⟨1, ?_⟩
      simp only [readAfter, List.take_succ_cons, List.take_zero, List.flatten_cons,
        List.flatten_nil, List.append_nil]
      omega
    · rw [List.flatten_cons, List.length_append] at long
      obtain ⟨count, beyond, near⟩ :=
        ih (fun other mem => small other (List.mem_cons_of_mem _ mem))
          (by omega : limit - piece.length < pieces.flatten.length)
      refine ⟨count + 1, ?_⟩
      rw [readAfter] at beyond near ⊢
      rw [List.take_succ_cons, List.flatten_cons, List.length_append]
      omega

/-- A section that is longer than the limit and a whole read is cut by some read. -/
theorem overruns_of_long {pieces : List (List UInt8)} (reads : AreReads pieces) {length : Nat}
    (isSection : IsHeaderSection pieces.flatten length)
    (long : maxHeaderBytes + pieceBytes < length) : Overruns pieces := by
  have within := isSection.within
  obtain ⟨count, beyond, near⟩ := exists_readAfter (fun piece mem => (reads piece mem).2)
    (by omega : maxHeaderBytes < pieces.flatten.length)
  rw [overruns_iff]
  refine ⟨count, beyond, ?_⟩
  obtain ⟨head, rest, found, rfl⟩ := isHeaderSection_iff.mp isSection
  rw [← readAfter_prefix pieces count] at found
  exact splitHead_of_short found (by omega)

/-! ## Sections that are cut or not -/

/-- A stream that is read byte by byte. -/
def bytewise (stream : List UInt8) : List (List UInt8) := stream.map fun byte => [byte]

theorem flatten_bytewise (stream : List UInt8) : (bytewise stream).flatten = stream := by
  induction stream with
  | nil => rfl
  | cons byte stream ih => simpa [bytewise] using ih

theorem readAfter_bytewise (stream : List UInt8) (count : Nat) :
    readAfter (bytewise stream) count = stream.take count := by
  rw [readAfter, bytewise, ← List.map_take]
  exact flatten_bytewise _

/-- A byte at a time may be read. -/
theorem areReads_bytewise (stream : List UInt8) : AreReads (bytewise stream) := by
  intro piece mem
  obtain ⟨byte, _, rfl⟩ := List.mem_map.mp mem
  exact ⟨Nat.le_refl 1, Nat.le_of_ble_eq_true rfl⟩

/-- Read byte by byte, every section is cut that can be. -/
theorem overruns_bytewise {stream : List UInt8} {length : Nat}
    (isSection : IsHeaderSection stream length) (long : maxHeaderBytes + 1 < length) :
    Overruns (bytewise stream) := by
  have within := isSection.within
  refine ⟨maxHeaderBytes + 1, ?_⟩
  rw [readAfter_bytewise, flatten_bytewise, List.length_take, Nat.min_eq_left (by omega)]
  refine ⟨Nat.lt_succ_self _, fun other isOther => ?_⟩
  obtain ⟨head, rest, found, rfl⟩ := isHeaderSection_iff.mp isSection
  obtain ⟨_, _, same, rfl⟩ := isHeaderSection_iff.mp isOther
  cases found.symm.trans same
  exact long

/-- A stream of which the bytes up to some place, those between it and another one, and those behind
are read byte by byte, at one go, and byte by byte again. -/
def readOver (stream : List UInt8) (first last : Nat) : List (List UInt8) :=
  bytewise (stream.take first) ++ [(stream.take last).drop first] ++ bytewise (stream.drop last)

theorem flatten_through {stream : List UInt8} {first last : Nat} (ordered : first ≤ last) :
    (bytewise (stream.take first) ++ [(stream.take last).drop first]).flatten
      = stream.take last := by
  have front : stream.take first = (stream.take last).take first := by
    rw [List.take_take, Nat.min_eq_left ordered]
  rw [List.flatten_append, flatten_bytewise, List.flatten_singleton, front,
    List.take_append_drop]

/-- A stream that is read over a stretch is that stream. -/
theorem flatten_readOver {stream : List UInt8} {first last : Nat} (ordered : first ≤ last) :
    (readOver stream first last).flatten = stream := by
  rw [readOver, List.flatten_append, flatten_through ordered, flatten_bytewise,
    List.take_append_drop]

/-- A stretch that fits into one read may be read over. -/
theorem areReads_readOver {stream : List UInt8} {first last : Nat} (ordered : first < last)
    (within : last ≤ stream.length) (near : last ≤ first + pieceBytes) :
    AreReads (readOver stream first last) := by
  intro piece mem
  simp only [readOver, List.mem_append, List.mem_singleton] at mem
  rcases mem with (mem | rfl) | mem
  · exact areReads_bytewise _ piece mem
  · rw [List.length_drop, List.length_take]
    omega
  · exact areReads_bytewise _ piece mem

/-- A read from the limit to the end of the section leaves it uncut. -/
theorem not_overruns_readOver {stream : List UInt8} {length : Nat}
    (isSection : IsHeaderSection stream length) (long : maxHeaderBytes < length) :
    ¬ Overruns (readOver stream maxHeaderBytes length) := by
  have within := isSection.within
  rintro ⟨count, beyond, behind⟩
  rw [flatten_readOver (Nat.le_of_lt long)] at behind
  have before := behind length isSection
  have front : (bytewise (stream.take maxHeaderBytes)).length = maxHeaderBytes := by
    rw [bytewise, List.length_map, List.length_take]
    omega
  by_cases early : count ≤ maxHeaderBytes
  · have begun : readAfter (readOver stream maxHeaderBytes length) count
        = (stream.take maxHeaderBytes).take count := by
      rw [readAfter, readOver, List.append_assoc,
        List.take_append_of_le_length (by omega), ← readAfter, readAfter_bytewise]
    rw [begun, List.length_take] at beyond
    omega
  · have through : stream.take length
        <+: readAfter (readOver stream maxHeaderBytes length) count := by
      rw [← flatten_through (Nat.le_of_lt long), readAfter, readOver]
      apply List.IsPrefix.flatten
      rw [List.prefix_take_iff, List.length_append, front]
      exact ⟨List.prefix_append .., Nat.lt_of_not_le early⟩
    have reached := through.length_le
    rw [List.length_take] at reached
    omega

/-- A stream without a header section is no request. -/
theorem readRequest_of_endless {pieces : List (List UInt8)}
    (endless : ∀ length, ¬ IsHeaderSection pieces.flatten length) :
    ∃ fault, readRequest pieces = .error fault := by
  by_cases overruns : Overruns pieces
  · exact ⟨_, readRequest_of_overruns overruns⟩
  · have hidden : splitHead pieces.flatten = none := by
      rw [@splitHead_eq_none_iff _ [], List.append_nil]
      exact fun length isSection => absurd isSection (endless length)
    rw [readRequest_of_not_overruns overruns, readRequest_whole, settled, progress, hidden]
    by_cases large : maxHeaderBytes < pieces.flatten.length
    · simp only [if_pos large]
      exact ⟨_, rfl⟩
    · simp only [if_neg large]
      exact ⟨_, rfl⟩

/-- A stream is refused for its header section iff some read ends beyond the limit and before the
end of the section, and otherwise it is read as if it came at one go; without an end of the section
it is refused in any case. No read can end there if the section is at most one byte longer than the
limit, and some read has to if it is longer than the limit and a whole read. What lies between is
cut by the reads of one client and not by those of another one, and accepted or refused accordingly.
-/
theorem readRequest_cut (pieces : List (List UInt8)) :
    (Overruns pieces → readRequest pieces = .error .headersTooLarge) ∧
    (¬ Overruns pieces → readRequest pieces = readRequest [pieces.flatten]) ∧
    ((∀ length, ¬ IsHeaderSection pieces.flatten length) →
      ∃ fault, readRequest pieces = .error fault) ∧
    ∀ length, IsHeaderSection pieces.flatten length →
      (length ≤ maxHeaderBytes + 1 → ¬ Overruns pieces) ∧
      (AreReads pieces → maxHeaderBytes + pieceBytes < length → Overruns pieces) ∧
      (maxHeaderBytes + 1 < length → length ≤ maxHeaderBytes + pieceBytes →
        ∃ uncut cut, (AreReads uncut ∧ uncut.flatten = pieces.flatten ∧ ¬ Overruns uncut) ∧
          AreReads cut ∧ cut.flatten = pieces.flatten ∧ Overruns cut) := by
  refine ⟨readRequest_of_overruns, readRequest_of_not_overruns, readRequest_of_endless,
    fun length isSection => ⟨?_, ?_, ?_⟩⟩
  · exact not_overruns_of_short isSection
  · exact fun reads long => overruns_of_long reads isSection long
  · intro long near
    have beyond : maxHeaderBytes < length := by omega
    refine ⟨readOver pieces.flatten maxHeaderBytes length, bytewise pieces.flatten, ⟨?_, ?_, ?_⟩,
      ?_, ?_, ?_⟩
    · exact areReads_readOver beyond isSection.within near
    · exact flatten_readOver (Nat.le_of_lt beyond)
    · exact not_overruns_readOver isSection beyond
    · exact areReads_bytewise _
    · exact flatten_bytewise _
    · exact overruns_bytewise isSection long

namespace PaddedHead

/-- A request with a header field of some letters. -/
def head (letters : Nat) : WrittenHead :=
  ⟨"GET", "/health", none, "HTTP/1.1", [("Padding", String.ofList (List.replicate letters 'a'))]⟩

theorem target_head (letters : Nat) : (head letters).target = "/health" := by
  simp only [head, WrittenHead.target]
  decide

theorem isProper_head (letters : Nat) : (head letters).IsProper where
  methodIsWord := by
    simp only [head]
    exact ⟨by decide, List.all_iff_forall_prop.mp (by decide)⟩
  targetIsWord := by
    rw [target_head]
    exact ⟨by decide, List.all_iff_forall_prop.mp (by decide)⟩
  pathUnmarked := by
    simp only [head]
    decide
  versionUnbroken := by
    simp only [head]
    decide
  namesUnmarked := by
    simp only [head, List.forall_mem_cons]
    exact ⟨by decide, nofun⟩
  fieldsUnbroken := by
    simp only [head, List.forall_mem_cons, List.mem_append, String.toList_ofList,
      List.mem_replicate]
    refine ⟨?_, nofun⟩
    rintro character (name | ⟨_, rfl⟩)
    · revert character
      exact List.all_iff_forall_prop.mp (by decide)
    · decide

theorem read_head (letters : Nat) :
    Head.read (head letters).bareBytes = .ok ⟨"GET", "/health", (head letters).headers, 0⟩ := by
  refine @WrittenHead.IsProper.read _ (isProper_head letters) 0 ?_ (Nat.zero_le _)
  have none : lastValue? (head letters).fields "content-length" = none := by
    have other : fieldName "Padding" ≠ "content-length" := by decide
    simp [lastValue?, head, other]
  rw [WrittenHead.Announces, none]

theorem length_bytes_head (letters : Nat) : (head letters).bytes.length = letters + 35 := by
  have field : WrittenHead.fieldLine ("Padding", String.ofList (List.replicate letters 'a'))
      = String.ofList ("Padding: ".toList ++ List.replicate letters 'a') := by
    rw [← String.toList_inj]
    simp [WrittenHead.fieldLine]
  have letter (count : Nat) :
      ((List.replicate count 'a').flatMap String.utf8EncodeChar).length = count := by
    have single : (String.utf8EncodeChar 'a').length = 1 := by decide
    rw [List.length_flatMap, List.map_replicate, single]
    simp
  have name : ("Padding: ".toList.flatMap String.utf8EncodeChar).length = 9 := by decide
  have fieldLength : (Text.encodeUtf8 (WrittenHead.fieldLine
      ("Padding", String.ofList (List.replicate letters 'a')))).length = letters + 9 := by
    rw [field, Text.encodeUtf8_ofList, List.flatMap_append, List.length_append, letter, name]
    omega
  have requestLine : (Text.encodeUtf8 "GET /health HTTP/1.1").length = 20 := by decide
  have first : (head letters).method ++ " " ++ (head letters).target ++ " "
      ++ (head letters).version = "GET /health HTTP/1.1" := by
    rw [target_head]
    simp only [head]
    decide
  rw [WrittenHead.bytes, WrittenHead.lines, first]
  simp only [head, List.map_cons, List.map_nil, List.flatMap_cons, List.flatMap_nil,
    List.length_append, List.length_nil, requestLine, fieldLength, lineEnd, List.length_cons]
  omega

theorem isHeaderSection_head (letters : Nat) :
    IsHeaderSection (head letters).bytes (letters + 35) := by
  have isSection := (isProper_head letters).isHeaderSection []
  rwa [List.append_nil, length_bytes_head] at isSection

/-- A stream in two whole reads and one of what is left. -/
def blocks (stream : List UInt8) : List (List UInt8) :=
  [stream.take pieceBytes, (stream.drop pieceBytes).take pieceBytes,
    stream.drop (2 * pieceBytes)]

theorem flatten_blocks (stream : List UInt8) : (blocks stream).flatten = stream := by
  have twice : stream.drop (2 * pieceBytes) = (stream.drop pieceBytes).drop pieceBytes := by
    rw [List.drop_drop]
    rfl
  simp only [blocks, twice, List.flatten_cons, List.flatten_nil, List.append_nil,
    List.take_append_drop]

theorem areReads_blocks {stream : List UInt8} (long : maxHeaderBytes < stream.length)
    (near : stream.length ≤ maxHeaderBytes + pieceBytes) : AreReads (blocks stream) := by
  simp only [maxHeaderBytes, pieceBytes] at long near
  simp only [AreReads, blocks, pieceBytes, List.forall_mem_cons, List.length_take,
    List.length_drop]
  refine ⟨by omega, by omega, by omega, nofun⟩

/-- The limit is a number of whole reads, so they do not overrun it before the third one. -/
theorem not_overruns_blocks {stream : List UInt8}
    (isSection : IsHeaderSection stream stream.length) : ¬ Overruns (blocks stream) := by
  rintro ⟨count, beyond, behind⟩
  rw [flatten_blocks] at behind
  have before := behind _ isSection
  simp only [maxHeaderBytes] at beyond
  rcases count with _ | _ | _ | count
  · cases beyond
  · simp only [readAfter, blocks, pieceBytes, List.take_succ_cons, List.take_zero,
      List.flatten_cons, List.flatten_nil, List.append_nil, List.length_take] at beyond
    omega
  · simp only [readAfter, blocks, pieceBytes, List.take_succ_cons, List.take_zero,
      List.flatten_cons, List.flatten_nil, List.append_nil, List.length_append,
      List.length_take, List.length_drop] at beyond
    omega
  · have all : readAfter (blocks stream) (count + 1 + 1 + 1) = stream := by
      rw [readAfter, List.take_of_length_le (by simp [blocks]), flatten_blocks]
    rw [all] at before
    exact Nat.lt_irrefl _ before

/-- In such blocks the request is accepted, however long its header section is. -/
theorem readRequest_blocks (letters : Nat) :
    readRequest (blocks (head letters).bytes)
      = .ok ⟨"GET", "/health", (head letters).headers, []⟩ := by
  have whole : IsHeaderSection (head letters).bytes (head letters).bytes.length :=
    length_bytes_head letters ▸ isHeaderSection_head letters
  have found := (isProper_head letters).splitHead []
  rw [readRequest_of_not_overruns (not_overruns_blocks whole), flatten_blocks,
    readRequest_whole, settled, progress, ← List.append_nil (head letters).bytes, found]
  dsimp only
  rw [read_head]
  rfl

/-- A header section of more than the limit is accepted if it comes in whole reads, and refused if
it comes byte by byte. -/
theorem readRequest_not_bounded :
    IsHeaderSection (head 8300).bytes 8335 ∧ maxHeaderBytes + 1 < 8335 ∧
    (AreReads (blocks (head 8300).bytes) ∧
      (blocks (head 8300).bytes).flatten = (head 8300).bytes ∧
      ∃ headers, readRequest (blocks (head 8300).bytes) = .ok ⟨"GET", "/health", headers, []⟩) ∧
    AreReads (bytewise (head 8300).bytes) ∧
      (bytewise (head 8300).bytes).flatten = (head 8300).bytes ∧
      readRequest (bytewise (head 8300).bytes) = .error .headersTooLarge := by
  have isSection := isHeaderSection_head 8300
  have length := length_bytes_head 8300
  have large : maxHeaderBytes + 1 < 8300 + 35 := by decide
  refine ⟨isSection, large, ⟨?_, flatten_blocks _, _, readRequest_blocks 8300⟩,
    areReads_bytewise _, flatten_bytewise _,
    readRequest_of_overruns (overruns_bytewise isSection large)⟩
  apply areReads_blocks
  · rw [length]
    decide
  · rw [length]
    decide

/-- A section of more than the limit is cut or not; a short one cannot be cut, and a long one has
to be. -/
theorem readRequest_cut_padded :
    (Overruns (bytewise (head 8300).bytes) ∧
      readRequest (bytewise (head 8300).bytes) = .error .headersTooLarge) ∧
    (¬ Overruns (blocks (head 8300).bytes) ∧
      readRequest (blocks (head 8300).bytes) = readRequest [(blocks (head 8300).bytes).flatten]) ∧
    (∃ fault, readRequest [] = .error fault) ∧
    ¬ Overruns (bytewise (head 8158).bytes) ∧ Overruns (bytewise (head 13000).bytes) ∧
    ∃ uncut cut, (AreReads uncut ∧ uncut.flatten = (bytewise (head 8159).bytes).flatten ∧
        ¬ Overruns uncut) ∧
      AreReads cut ∧ cut.flatten = (bytewise (head 8159).bytes).flatten ∧ Overruns cut := by
  have isSection (letters : Nat) :
      IsHeaderSection (bytewise (head letters).bytes).flatten (letters + 35) := by
    rw [flatten_bytewise]
    exact isHeaderSection_head letters
  have overruns := overruns_bytewise (isHeaderSection_head 8300) (by decide)
  have inTime := not_overruns_blocks (length_bytes_head 8300 ▸ isHeaderSection_head 8300)
  have endless (length : Nat) : ¬ IsHeaderSection ([] : List (List UInt8)).flatten length := by
    intro ended
    obtain ⟨_, _, found, _⟩ := isHeaderSection_iff.mp ended
    cases found
  refine ⟨⟨overruns, (readRequest_cut _).1 overruns⟩, ⟨inTime, (readRequest_cut _).2.1 inTime⟩,
    (readRequest_cut []).2.2.1 endless, ?_, ?_, ?_⟩
  · exact ((readRequest_cut _).2.2.2 _ (isSection 8158)).1 (by decide)
  · exact ((readRequest_cut _).2.2.2 _ (isSection 13000)).2.1 (areReads_bytewise _) (by decide)
  · exact ((readRequest_cut _).2.2.2 _ (isSection 8159)).2.2 (by decide) (by decide)

end PaddedHead

end ConfigDelivery.Http
