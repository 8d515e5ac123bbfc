import ConfigDelivery.Proofs.Http.Arrival
import ConfigDelivery.Proofs.Text.Integer
import ConfigDelivery.Proofs.Text.Utf8
import Mathlib.Data.List.Basic
/-!
# Heads of requests are read back

A client writes the head of a request as lines: its method, its target and a version, and then a
line for each header field. Reading gives back the method, the path of the target, the last value of
each field name and the length of the body that they announce. Names are compared without blanks
around them and in lower case.
-/

namespace ConfigDelivery.Http

/-- The head of a request as a client writes it. -/
structure WrittenHead where
  method : String
  path : String
  query : Option String := none
  version : String := "HTTP/1.1"
  fields : List (String × String) := []

/-- The name under which a header field is found. -/
def fieldName (name : String) : String :=
  String.ofList (Text.lowerText (Text.trim name).toList)

/-- The last value of a header field, without the blanks around it. -/
def lastValue? (fields : List (String × String)) (name : String) : Option String :=
  ((fields.filter fun field => fieldName field.1 = name).getLast?).map fun field =>
    Text.trim field.2

namespace WrittenHead

/-- What is asked for: a path, and perhaps a query behind a question mark. -/
def target (head : WrittenHead) : String :=
  head.path ++ (head.query.map fun query => "?" ++ query).getD ""

/-- The line of a header field. -/
def fieldLine (field : String × String) : String := field.1 ++ ": " ++ field.2

/-- The lines of a head. -/
def lines (head : WrittenHead) : List String :=
  (head.method ++ " " ++ head.target ++ " " ++ head.version) :: head.fields.map fieldLine

/-- The bytes of a head: each line ends in a carriage return and a line feed, and so does the empty
line behind them. -/
def bytes (head : WrittenHead) : List UInt8 :=
  (head.lines.flatMap fun line => Text.encodeUtf8 line ++ lineEnd) ++ lineEnd

/-- A head whose parts can be told apart. -/
structure IsProper (head : WrittenHead) : Prop where
  methodIsWord : head.method ≠ "" ∧ ∀ character ∈ head.method.toList, Text.isBlank character = false
  targetIsWord : head.target ≠ "" ∧ ∀ character ∈ head.target.toList, Text.isBlank character = false
  pathUnmarked : '?' ∉ head.path.toList
  versionUnbroken : '\r' ∉ head.version.toList ∧ '\n' ∉ head.version.toList
  namesUnmarked : ∀ field ∈ head.fields, ':' ∉ field.1.toList
  fieldsUnbroken : ∀ field ∈ head.fields, ∀ character ∈ field.1.toList ++ field.2.toList,
    character ≠ '\r' ∧ character ≠ '\n'

/-- The length of a body is what the last field for it says, and zero if there is none. -/
def Announces (head : WrittenHead) (length : Nat) : Prop :=
  match lastValue? head.fields "content-length" with
  | some text => Text.WritesNumber text length
  | none => length = 0

end WrittenHead

/-! ## Lines -/

/-- The characters that end a line. -/
def lineBreak : List Char := ['\r', '\n']

/-- What stands before the first line belongs to that line. -/
theorem headLines_append {line : List Char} (whole : '\r' ∉ line) {rest first : List Char}
    {others : List (List Char)} (behind : headLines rest = first :: others) :
    headLines (line ++ rest) = (line ++ first) :: others := by
  induction line with
  | nil => exact behind
  | cons character line ih =>
    obtain ⟨different, whole⟩ := List.ne_and_not_mem_of_not_mem_cons whole
    rw [List.cons_append, headLines, ih whole]
    · rfl
    · intro later first _
      exact different first.symm

/-- Lines that are written one after the other are the lines of the whole. -/
theorem headLines_intercalate {line : List Char} {lines : List (List Char)}
    (whole : ∀ other ∈ line :: lines, '\r' ∉ other) :
    headLines (lineBreak.intercalate (line :: lines)) = line :: lines := by
  induction lines generalizing line with
  | nil =>
    have alone : headLines [] = [] :: [] := rfl
    rw [List.intercalate_singleton, ← List.append_nil line, headLines_append _ alone]
    exact whole line (List.mem_singleton_self line)
  | cons next lines ih =>
    have behind : headLines (lineBreak ++ lineBreak.intercalate (next :: lines))
        = [] :: next :: lines := by
      rw [lineBreak, List.cons_append, List.cons_append, headLines, List.nil_append, ← lineBreak,
        ih fun other mem => whole other (List.mem_cons_of_mem _ mem)]
    rw [List.intercalate_cons_cons, List.append_assoc, headLines_append _ behind, List.append_nil]
    exact whole line (List.mem_cons_self ..)

/-- The bytes of lines that are written one after the other. -/
theorem intercalate_flatMap (line : List Char) (lines : List (List Char)) :
    lineEnd.intercalate ((line :: lines).map fun line => line.flatMap String.utf8EncodeChar)
      = (lineBreak.intercalate (line :: lines)).flatMap String.utf8EncodeChar := by
  induction lines generalizing line with
  | nil => simp
  | cons next lines ih =>
    have broken : lineBreak.flatMap String.utf8EncodeChar = lineEnd := by decide
    rw [List.map_cons, List.map_cons, List.intercalate_cons_cons, ← List.map_cons, ih,
      List.intercalate_cons_cons, List.flatMap_append, List.flatMap_append, broken]

/-- Lines that each have an end, and one more end, are lines with ends between them and the end of a
head. -/
theorem flatMap_lineEnd (line : List UInt8) (lines : List (List UInt8)) :
    ((line :: lines).flatMap fun line => line ++ lineEnd) ++ lineEnd
      = lineEnd.intercalate (line :: lines) ++ headEnd := by
  induction lines generalizing line with
  | nil => simp [headEnd]
  | cons next lines ih =>
    rw [List.flatMap_cons, List.append_assoc, ih, List.intercalate_cons_cons, List.append_assoc,
      List.append_assoc, List.append_assoc]

/-! ## Words -/

/-- Letters in front of a text belong to the word that is being read. -/
theorem words_go_append {word letters : List Char}
    (whole : ∀ character ∈ letters, Text.isBlank character = false) (rest : List Char) :
    words.go word (letters ++ rest) = words.go (letters.reverse ++ word) rest := by
  induction letters generalizing word with
  | nil => rfl
  | cons character letters ih =>
    have letter : ¬ Text.isBlank character = true := by
      rw [whole character (List.mem_cons_self ..)]
      decide
    rw [List.cons_append, words.go, if_neg letter,
      ih fun other mem => whole other (List.mem_cons_of_mem _ mem)]
    simp

/-- A word that a space follows is the first word of a line. -/
theorem words_cons {word : String} (filled : word ≠ "")
    (whole : ∀ character ∈ word.toList, Text.isBlank character = false) (rest : List Char) :
    words (word.toList ++ ' ' :: rest) = word :: words rest := by
  have blank : Text.isBlank ' ' = true := by decide
  have letters : word.toList.reverse.isEmpty = false := by simpa using filled
  rw [words, words_go_append whole, List.append_nil, words.go, if_pos blank, letters,
    List.reverse_reverse, String.ofList_toList]
  rfl

/-! ## Header fields -/

/-- A text is cut at the first mark. -/
theorem cut?_append {mark : Char} {before : List Char} (without : mark ∉ before)
    (after : List Char) : Text.cut? mark (before ++ mark :: after) = some (before, after) := by
  have passed : ∀ character ∈ before, (character != mark) = true := by
    intro character mem
    exact bne_iff_ne.mpr (fun same => without (same ▸ mem))
  have spanned : (before ++ mark :: after).span (· != mark) = (before, mark :: after) := by
    rw [List.span_eq_takeWhile_dropWhile, List.takeWhile_append_of_pos passed,
      List.dropWhile_append_of_pos passed]
    simp
  rw [Text.cut?, spanned]

/-- A written field is read back with its value trimmed. -/
theorem field?_fieldLine {field : String × String} (name : ':' ∉ field.1.toList) :
    field? (WrittenHead.fieldLine field).toList = some (fieldName field.1, Text.trim field.2) := by
  have chars : (WrittenHead.fieldLine field).toList
      = field.1.toList ++ ':' :: (' ' :: field.2.toList) := by
    simp [WrittenHead.fieldLine]
  have blank : Text.trimLeft (' ' :: field.2.toList) = Text.trimLeft field.2.toList := by
    rw [Text.trimLeft, List.dropWhile_cons_of_pos (by decide)]
    rfl
  have value : Text.trim (String.ofList (' ' :: field.2.toList)) = Text.trim field.2 := by
    rw [Text.trim, String.toList_ofList, blank, Text.trim]
  rw [field?, chars, cut?_append name, Option.map_some]
  dsimp only
  rw [value, String.ofList_toList, fieldName]

/-- Of two fields with one name the later counts. -/
theorem find?_foldl_insert (fields : List (String × String)) (table : Table String)
    (name : String) :
    (fields.foldl (fun table field => table.insert (fieldName field.1) (Text.trim field.2))
        table).find? name
      = (lastValue? fields name).or (table.find? name) := by
  induction fields generalizing table with
  | nil => rfl
  | cons field fields ih =>
    rw [List.foldl_cons, ih, Table.find?_insert, lastValue?, lastValue?, List.filter_cons]
    by_cases same : fieldName field.1 = name
    · rw [if_pos same, if_pos (decide_eq_true same), List.getLast?_cons]
      cases (fields.filter fun field => fieldName field.1 = name).getLast? <;> rfl
    · rw [if_neg same, if_neg (by simpa using same)]

/-- A field of written lines is found with the last value of its name. -/
theorem find?_fields {written : List (String × String)}
    (names : ∀ field ∈ written, ':' ∉ field.1.toList) (name : String) :
    (fields (written.map fun field => (WrittenHead.fieldLine field).toList)).find? name
      = lastValue? written name := by
  have folded : fields (written.map fun field => (WrittenHead.fieldLine field).toList)
      = written.foldl (fun table field => table.insert (fieldName field.1) (Text.trim field.2))
        Table.empty := by
    rw [fields, List.foldl_map]
    refine List.foldl_ext _ _ _ fun table field mem => ?_
    rw [field?_fieldLine (names field mem)]
  rw [folded, find?_foldl_insert]
  cases lastValue? written name <;> rfl

end ConfigDelivery.Http
