import ConfigDelivery.Proofs.Http.Heads
import Mathlib.Data.Bool.AllAny
import Mathlib.Data.List.Infix
/-!
# Requests are read back

A request that a client writes is read back exactly, with any bytes behind it and however it is cut
into pieces: the end of its head may lie across pieces, and its body may hold what looks like such
an end. A stream that breaks off before the end of the request is refused for what is missing.
-/

namespace ConfigDelivery.Http

namespace WrittenHead

variable {head : WrittenHead}

/-- The bytes of a head before the end of its last line. -/
def bareBytes (head : WrittenHead) : List UInt8 :=
  lineEnd.intercalate (head.lines.map Text.encodeUtf8)

/-- The bytes of a head are its lines and the end. -/
theorem bytes_eq (head : WrittenHead) : head.bytes = head.bareBytes ++ headEnd := by
  rw [bytes, bareBytes, lines, List.map_cons, ← flatMap_lineEnd, ← List.map_cons,
    List.flatMap_map]

/-- A head is four bytes longer than its lines. -/
theorem length_bytes (head : WrittenHead) : head.bytes.length = head.bareBytes.length + 4 := by
  rw [bytes_eq, List.length_append]
  rfl

theorem isBlank_return : Text.isBlank '\r' = true := by decide

/-- No line of a head holds a carriage return. -/
theorem IsProper.noReturn (proper : head.IsProper) {line : String} (mem : line ∈ head.lines) :
    '\r' ∉ line.toList := by
  rcases List.mem_cons.mp mem with rfl | mem
  · have method : '\r' ∉ head.method.toList := fun inside =>
      absurd ((proper.methodIsWord.2 _ inside).symm.trans isBlank_return) (by decide)
    have target : '\r' ∉ head.target.toList := fun inside =>
      absurd ((proper.targetIsWord.2 _ inside).symm.trans isBlank_return) (by decide)
    simp [method, target, proper.versionUnbroken.1]
  · obtain ⟨field, inside, rfl⟩ := List.mem_map.mp mem
    have name : '\r' ∉ field.1.toList := fun found =>
      (proper.fieldsUnbroken field inside _ (List.mem_append_left _ found)).1 rfl
    have value : '\r' ∉ field.2.toList := fun found =>
      (proper.fieldsUnbroken field inside _ (List.mem_append_right _ found)).1 rfl
    simp [fieldLine, name, value]

/-- A line without a carriage return has no such byte. -/
theorem notMem_encodeUtf8 {line : String} (whole : '\r' ∉ line.toList) :
    13 ∉ Text.encodeUtf8 line := by
  intro mem
  rw [← String.ofList_toList (s := line), Text.encodeUtf8_ofList] at mem
  obtain ⟨character, inside, mem⟩ := List.mem_flatMap.mp mem
  have code : character.toNat = 13 := Text.toNat_of_mem_utf8EncodeChar mem (by decide)
  have same : character = '\r' := by rw [← Char.ofNat_toNat character, code]
  exact whole (same ▸ inside)

/-- A line with something in it has a byte. -/
theorem encodeUtf8_ne_nil {line : String} (filled : line ≠ "") : Text.encodeUtf8 line ≠ [] := by
  rw [← String.ofList_toList (s := line), Text.encodeUtf8_ofList]
  intro empty
  have noChars : line.toList = [] := by
    rw [List.eq_nil_iff_forall_not_mem]
    intro character mem
    exact String.utf8EncodeChar_ne_nil (List.flatMap_eq_nil_iff.mp empty character mem)
  exact filled (String.toList_eq_nil_iff.mp noChars)

/-- The head ends where it was written to end. -/
theorem IsProper.splitHead (proper : head.IsProper) (rest : List UInt8) :
    splitHead (head.bytes ++ rest) = some (head.bareBytes, rest) := by
  rw [bytes_eq]
  refine splitHead_lines ?_ ?_ rest
  · intro bytes mem
    rw [← List.map_cons] at mem
    obtain ⟨line, inside, rfl⟩ := List.mem_map.mp mem
    exact notMem_encodeUtf8 (proper.noReturn inside)
  · intro bytes mem
    obtain ⟨line, inside, rfl⟩ := List.mem_map.mp mem
    obtain ⟨field, _, rfl⟩ := List.mem_map.mp inside
    refine encodeUtf8_ne_nil fun empty => ?_
    have chars := congrArg String.toList empty
    simp [fieldLine] at chars

/-- The lines of a proper head are read back. -/
theorem IsProper.headLines (proper : head.IsProper) :
    headLines (Text.decodeUtf8 head.bareBytes).toList = head.lines.map String.toList := by
  have decoded : Text.decodeUtf8 head.bareBytes
      = String.ofList (lineBreak.intercalate (head.lines.map String.toList)) := by
    have encoded : head.bareBytes = lineEnd.intercalate
        ((head.lines.map String.toList).map fun line => line.flatMap String.utf8EncodeChar) := by
      rw [bareBytes, List.map_map]
      congr 2
      funext line
      rw [Function.comp_apply, ← Text.encodeUtf8_ofList, String.ofList_toList]
    rw [encoded, lines, List.map_cons, intercalate_flatMap, Text.decodeUtf8_flatMap]
  rw [decoded, String.toList_ofList, lines, List.map_cons]
  refine headLines_intercalate fun chars mem => ?_
  rw [← List.map_cons] at mem
  obtain ⟨line, inside, rfl⟩ := List.mem_map.mp mem
  exact proper.noReturn inside

/-- The path of a proper head is read back from its target. -/
theorem IsProper.pathOf (proper : head.IsProper) : pathOf head.target = head.path := by
  have letters : ∀ character ∈ head.path.toList, (character != '?') = true := fun character mem =>
    bne_iff_ne.mpr fun same => proper.pathUnmarked (same ▸ mem)
  have nothing : ((head.query.map fun query => "?" ++ query).getD "").toList.takeWhile (· != '?')
      = [] := by
    cases head.query <;> simp
  rw [Http.pathOf, target, String.toList_append, List.takeWhile_append_of_pos letters, nothing,
    List.append_nil, String.ofList_toList]

/-- The header fields of a head, as they are found. -/
def headers (head : WrittenHead) : Table String :=
  Http.fields (head.fields.map fun field => (fieldLine field).toList)

/-- A field of a proper head has the last value that was written for it. -/
theorem IsProper.find?_headers (proper : head.IsProper) (name : String) :
    head.headers.find? name = lastValue? head.fields name :=
  find?_fields proper.namesUnmarked name

/-- The length of the body is the one that the head announces. -/
theorem IsProper.bodyLength (proper : head.IsProper) {length : Nat}
    (announced : head.Announces length) (bounded : length ≤ maxBodyBytes) :
    bodyLength head.headers = .ok length := by
  rw [Http.bodyLength, proper.find?_headers]
  unfold Announces at announced
  cases last : lastValue? head.fields "content-length" with
  | none =>
    rw [last] at announced
    rw [show length = 0 from announced]
  | some text =>
    rw [last] at announced
    have small : (length : Int) ≤ Text.IntegerRange.unsigned64.high := by
      show (length : Int) ≤ 0xffffffffffffffff
      have limit : maxBodyBytes = 262144 := rfl
      omega
    dsimp only
    rw [Text.readInteger_of_writes _ announced small]
    dsimp only
    rw [Int.toNat_natCast, if_neg (Nat.not_lt.mpr bounded)]

/-- A head is read back. -/
theorem IsProper.read (proper : head.IsProper) {length : Nat} (announced : head.Announces length)
    (bounded : length ≤ maxBodyBytes) :
    Head.read head.bareBytes = .ok ⟨head.method, head.path, head.headers, length⟩ := by
  have first : words (head.method ++ " " ++ head.target ++ " " ++ head.version).toList
      = head.method :: head.target :: words head.version.toList := by
    rw [← words_cons proper.targetIsWord.1 proper.targetIsWord.2,
      ← words_cons proper.methodIsWord.1 proper.methodIsWord.2]
    simp
  rw [Head.read, proper.headLines, lines, List.map_cons, List.map_map]
  dsimp only
  rw [first]
  dsimp only
  rw [proper.pathOf]
  show (Http.bodyLength head.headers).map _ = _
  rw [proper.bodyLength announced bounded]
  rfl

end WrittenHead

/-! ## Requests in pieces -/

section Written

variable {head : WrittenHead} {body : List UInt8}

/-- What the bytes of a written request so far are. -/
theorem progress_written (proper : head.IsProper) (fits : head.bytes.length ≤ maxHeaderBytes)
    (announced : head.Announces body.length) (bounded : body.length ≤ maxBodyBytes)
    {seen more : List UInt8} (begins : seen <+: head.bytes ++ body ++ more) :
    progress seen =
      if seen.length < head.bytes.length then .unfinished .headersCutShort
      else if seen.length < head.bytes.length + body.length then .unfinished .bodyCutShort
      else .finished (.ok ⟨head.method, head.path, head.headers, body⟩) := by
  rw [List.append_assoc] at begins
  by_cases short : seen.length < head.bytes.length
  · obtain ⟨missing, whole⟩ := begins
    have split := proper.splitHead (body ++ more)
    rw [← whole] at split
    have none := splitHead_of_short split (by rwa [← WrittenHead.length_bytes])
    rw [if_pos short, progress, none]
    dsimp only
    rw [if_neg (by omega)]
  · have headFirst : head.bytes <+: seen :=
      List.prefix_of_prefix_length_le (List.prefix_append ..) begins (Nat.le_of_not_lt short)
    obtain ⟨tail, rfl⟩ := headFirst
    have tailBegins : tail <+: body ++ more := (List.prefix_append_right_inj _).mp begins
    rw [if_neg short, progress, proper.splitHead tail]
    dsimp only
    rw [proper.read announced bounded]
    dsimp only
    rw [List.length_append]
    by_cases cut : tail.length < body.length
    · rw [if_pos cut, if_pos (by omega)]
    · have bodyFirst : body <+: tail :=
        List.prefix_of_prefix_length_le (List.prefix_append ..) tailBegins (Nat.le_of_not_lt cut)
      rw [if_neg cut, if_neg (by omega), ← List.prefix_iff_eq_take.mp bodyFirst]

end Written

/-- A request that a client writes is read back however it is cut into pieces, whatever bytes come
behind it: its method, its path without the query, the last value of each header field, and its
body. A stream that ends before the request does is refused. -/
theorem readRequest_written {head : WrittenHead} (proper : head.IsProper)
    (fits : head.bytes.length ≤ maxHeaderBytes) {body : List UInt8}
    (announced : head.Announces body.length) (bounded : body.length ≤ maxBodyBytes)
    (pieces : List (List UInt8)) :
    (∀ more, pieces.flatten = head.bytes ++ body ++ more →
      ∃ headers, readRequest pieces = .ok ⟨head.method, head.path, headers, body⟩ ∧
        ∀ name, headers.find? name = lastValue? head.fields name) ∧
    (∀ missing, missing ≠ [] → pieces.flatten ++ missing = head.bytes ++ body →
      readRequest pieces = .error
        (if pieces.flatten.length < head.bytes.length then .headersCutShort
          else .bodyCutShort)) := by
  constructor
  · intro more stream
    refine ⟨head.headers, ?_, proper.find?_headers⟩
    refine readFrom_eq pieces.flatten (fun beginning begins => ?_) ?_ rfl
    · rw [progress_written proper fits announced bounded (stream ▸ begins)]
      split
      · exact .inr ⟨_, rfl⟩
      · split
        · exact .inr ⟨_, rfl⟩
        · exact .inl rfl
    · have all : pieces.flatten <+: head.bytes ++ body ++ more := by
        rw [stream]
      have long : head.bytes.length + body.length ≤ pieces.flatten.length := by
        rw [stream, List.length_append, List.length_append]
        omega
      rw [progress_written proper fits announced bounded all, if_neg (by omega),
        if_neg (by omega)]
  · intro missing broken whole
    have short : pieces.flatten.length < head.bytes.length + body.length := by
      have long := congrArg List.length whole
      have some := List.length_pos_iff.mpr broken
      simp only [List.length_append] at long
      omega
    have begins : pieces.flatten <+: head.bytes ++ body ++ [] := by
      rw [List.append_nil]
      exact ⟨missing, whole⟩
    refine readFrom_eq_error pieces.flatten (fun beginning first => ?_) ?_ rfl
    · rw [progress_written proper fits announced bounded (first.trans begins)]
      have shorter := first.length_le
      split
      · exact ⟨_, rfl⟩
      · rw [if_pos (by omega)]
        exact ⟨_, rfl⟩
    · rw [progress_written proper fits announced bounded begins, if_pos short]
      split <;> rfl

namespace ReportInPieces

/-- A report whose body looks like the end of a head; its length is announced twice. -/
def head : WrittenHead :=
  ⟨"POST", "/v1/report_error", some "from=a?b", "HTTP/1.1",
    [("Content-Length", "9"), ("X-Übung", "1"), (" content-LENGTH", " +4 ")]⟩

/-- The body of the report. -/
def body : List UInt8 := headEnd

/-- The stream of the report and of a byte behind it, cut inside the end of its head. -/
def pieces : List (List UInt8) :=
  [head.bytes.take (head.bytes.length - 3),
    head.bytes.drop (head.bytes.length - 3) ++ body.take 1, body.drop 1 ++ [71]]

theorem isProper_head : head.IsProper where
  methodIsWord := ⟨by decide, List.all_iff_forall_prop.mp (by decide)⟩
  targetIsWord := ⟨by decide, List.all_iff_forall_prop.mp (by decide +kernel)⟩
  pathUnmarked := by decide
  versionUnbroken := by decide
  namesUnmarked := by decide
  fieldsUnbroken := by
    simp only [head, List.forall_mem_cons]
    exact ⟨List.all_iff_forall_prop.mp (by decide), List.all_iff_forall_prop.mp (by decide),
      List.all_iff_forall_prop.mp (by decide), nofun⟩

theorem announces_head : head.Announces body.length := by
  have last : lastValue? head.fields "content-length" = some "+4" := by decide
  rw [WrittenHead.Announces, last]
  exact ⟨['4'], by decide, List.all_iff_forall_prop.mp (by decide), .inr (by decide), by decide⟩

theorem readRequest_written_in_pieces :
    head.IsProper ∧ head.bytes.length ≤ maxHeaderBytes ∧ head.Announces body.length ∧
      body.length ≤ maxBodyBytes ∧ pieces.flatten = head.bytes ++ body ++ [71] ∧
      ∃ headers, readRequest pieces = .ok ⟨"POST", "/v1/report_error", headers, body⟩ ∧
        headers.find? "content-length" = some "+4" := by
  have fits : head.bytes.length ≤ maxHeaderBytes := by decide
  have whole : pieces.flatten = head.bytes ++ body ++ [71] := by decide
  obtain ⟨headers, read, values⟩ :=
    (readRequest_written isProper_head fits announces_head (by decide) pieces).1 [71] whole
  exact ⟨isProper_head, fits, announces_head, by decide, whole, headers, read,
    (values _).trans (by decide)⟩

end ReportInPieces

end ConfigDelivery.Http
