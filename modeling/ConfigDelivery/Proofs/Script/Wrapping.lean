import ConfigDelivery.Proofs.Text.Pieces
import ConfigDelivery.Script.Starlark.Program
/-!
# Putting a script under its header

The lines of a script come back from what it is wrapped into. The wrapping itself knows no tokens:
it indents whatever stands behind a line's end, also inside a literal that spans lines. So a literal
without a line's end stays what it is, and no other one does.
-/

namespace ConfigDelivery.Script.Starlark

open ConfigDelivery.Text (IsCut isCut_splitOn splitOn splitOn_append_cons splitOn_of_notMem
  splitOn_subset splitOn_unmarked)

/-! ## Lines -/

/-- A line without its carriage return has no other characters. -/
theorem dropReturn_subset (line : List Char) : dropReturn line ⊆ line := by
  intro character found
  unfold dropReturn at found
  split at found
  · rename_i rest reversed
    rw [← List.mem_reverse, reversed]
    exact List.mem_cons_of_mem _ (List.mem_reverse.mp found)
  · exact found

/-- A line that has no carriage return loses none. -/
theorem dropReturn_of_notMem {line : List Char} (noReturn : '\r' ∉ line) :
    dropReturn line = line := by
  unfold dropReturn
  split
  · rename_i rest reversed
    exact absurd (List.mem_reverse.mp (by simp [reversed])) noReturn
  · rfl

/-- A line is a piece between two ends, without the return that belongs to its end. -/
theorem exists_piece_of_mem_lines {source line : List Char} (isLine : line ∈ lines source) :
    ∃ piece ∈ splitOn '\n' source, line ⊆ piece := by
  have ended (isEnded : line ∈ (splitOn '\n' source).dropLast.map dropReturn) :
      ∃ piece ∈ splitOn '\n' source, line ⊆ piece := by
    obtain ⟨piece, isPiece, rfl⟩ := List.mem_map.mp isEnded
    exact ⟨piece, List.dropLast_subset _ isPiece, dropReturn_subset piece⟩
  simp only [lines] at isLine
  split at isLine
  · exact ended isLine
  · exact ended isLine
  · rename_i last _ isLast
    rcases List.mem_append.mp isLine with isEnded | same
    · exact ended isEnded
    · obtain rfl := List.mem_singleton.mp same
      exact ⟨line, List.mem_of_getLast? isLast, List.Subset.refl _⟩

/-- No line has a line end in it. -/
theorem lineEnd_notMem_line {source line : List Char} (isLine : line ∈ lines source) :
    '\n' ∉ line := by
  obtain ⟨piece, isPiece, within⟩ := exists_piece_of_mem_lines isLine
  exact fun found => splitOn_unmarked '\n' source piece isPiece (within found)

/-- The lines of a text without returns are the pieces between the ends, if the last one lacks its
end. -/
theorem lines_eq_splitOn {source : List Char} (noReturn : '\r' ∉ source)
    (unended : (splitOn '\n' source).getLast? ≠ some []) : lines source = splitOn '\n' source := by
  have whole (piece : List Char) (isPiece : piece ∈ (splitOn '\n' source).dropLast) :
      dropReturn piece = piece :=
    dropReturn_of_notMem fun found =>
      noReturn (splitOn_subset '\n' source piece (List.dropLast_subset _ isPiece) found)
  simp only [lines, List.map_congr_left whole, List.map_id']
  split
  · rename_i none
    exact absurd (List.getLast?_eq_none_iff.mp none) (isCut_splitOn '\n' source).nonempty
  · rename_i blank
    exact absurd blank unended
  · rename_i last _ isLast
    obtain ⟨ended, cut⟩ := List.getLast?_eq_some_iff.mp isLast
    rw [cut, List.dropLast_concat]

/-! ## Back from under the header -/

/-- The lines behind the header of a wrapped script. -/
def wrappedLines (wrapped : List Char) : List (List Char) :=
  (splitOn '\n' (wrapped.drop header.length)).dropLast

/-- A text is a header and indented lines, all with their ends, and without the indentation the
lines are a script's. -/
structure Wraps (source wrapped : List Char) : Prop where
  headed : header <+: wrapped
  ended : (splitOn '\n' (wrapped.drop header.length)).getLast? = some []
  indented : ∀ line ∈ wrappedLines wrapped, indentation <+: line
  back : (wrappedLines wrapped).map (·.drop indentation.length) = lines source

/-- What ends every line with a line's end is cut into the lines and nothing. -/
theorem isCut_ended {lines : List (List Char)} (unmarked : ∀ line ∈ lines, '\n' ∉ line) :
    IsCut '\n' (lines.flatMap fun line => line ++ ['\n']) (lines ++ [[]]) where
  nonempty := by simp
  unmarked piece isPiece := by
    rcases List.mem_append.mp isPiece with isLine | blank
    · exact unmarked piece isLine
    · simp_all
  joined := by
    clear unmarked
    induction lines with
    | nil => simp
    | cons line rest ih =>
      cases rest with
      | nil => simp
      | cons next others =>
        rw [List.flatMap_cons, ← ih]
        simp [List.intercalate_cons_cons]

/-- Behind the header, the wrapped lines stand one by one, indented. -/
theorem splitOn_wrap (source : List Char) :
    splitOn '\n' ((wrap source).drop header.length) =
      (lines source).map (indentation ++ ·) ++ [[]] := by
  have unmarked : ∀ line ∈ (lines source).map (indentation ++ ·), '\n' ∉ line := by
    intro indented isIndented
    obtain ⟨line, isLine, rfl⟩ := List.mem_map.mp isIndented
    simpa [indentation] using lineEnd_notMem_line isLine
  have behind : (wrap source).drop header.length =
      ((lines source).map (indentation ++ ·)).flatMap fun line => line ++ ['\n'] := by
    rw [wrap, List.drop_left, List.flatMap_map]
  rw [behind, ← (isCut_ended unmarked).eq_splitOn]

/-- The lines that are read back from under the header are the source's, indented. -/
theorem wrappedLines_wrap (source : List Char) :
    wrappedLines (wrap source) = (lines source).map (indentation ++ ·) := by
  rw [wrappedLines, splitOn_wrap, List.dropLast_concat]

/-- A wrapped source wraps it. -/
theorem wraps_wrap (source : List Char) : Wraps source (wrap source) where
  headed := List.prefix_append _ _
  ended := by rw [splitOn_wrap, List.getLast?_concat]
  indented line isLine := by
    rw [wrappedLines_wrap] at isLine
    obtain ⟨origin, -, rfl⟩ := List.mem_map.mp isLine
    exact List.prefix_append _ _
  back := by simp [wrappedLines_wrap, Function.comp_def]

/-! ## A literal that spans lines -/

/-- A text with every line but the first indented. -/
def indented : List Char → List Char
  | [] => []
  | character :: rest =>
    if character = '\n' then '\n' :: (indentation ++ indented rest) else character :: indented rest

/-- A text in one line is not indented. -/
theorem indented_of_notMem {text : List Char} (oneLine : '\n' ∉ text) : indented text = text := by
  fun_induction indented text with
  | case1 => rfl
  | case2 rest _ => simp at oneLine
  | case3 character rest _ ih =>
    rw [ih fun found => oneLine (List.mem_cons_of_mem _ found)]

/-- Each line end in a text makes it longer by an indentation. -/
theorem length_indented (text : List Char) :
    (indented text).length = text.length + indentation.length * text.count '\n' := by
  fun_induction indented text with
  | case1 => rfl
  | case2 rest ih =>
    simp only [List.length_cons, List.length_append, ih, List.count_cons_self, Nat.mul_succ]
    omega
  | case3 character rest different ih =>
    simp only [List.length_cons, ih, List.count_cons_of_ne different]
    omega

/-- A text keeps its place if and only if it is one line. -/
theorem indented_eq_self_iff {text : List Char} : indented text = text ↔ '\n' ∉ text := by
  refine ⟨fun kept found => ?_, indented_of_notMem⟩
  have longer := length_indented text
  have positive : 0 < text.count '\n' := List.count_pos_iff.mpr found
  simp only [kept, indentation, List.length_cons, List.length_nil] at longer
  omega

/-- Indentation adds blanks alone. -/
theorem mem_indented {text : List Char} {character : Char} (notBlank : character ≠ ' ') :
    character ∈ indented text ↔ character ∈ text := by
  fun_induction indented text with
  | case1 => simp
  | case2 rest ih => simp [indentation, notBlank, ih]
  | case3 first rest _ ih => simp [ih]

/-- Indenting every line of a text is indenting the first one and what stands behind an end. -/
theorem flatMap_splitOn (source : List Char) :
    ((splitOn '\n' source).flatMap fun line => indentation ++ line ++ ['\n']) =
      indentation ++ indented source ++ ['\n'] := by
  fun_induction indented source with
  | case1 => rfl
  | case2 rest ih =>
    rw [splitOn, if_pos (by simp), List.flatMap_cons, ih]
    simp
  | case3 character rest different ih =>
    rw [splitOn, if_neg (by simpa using different)]
    cases pieces : splitOn '\n' rest with
    | nil => exact absurd pieces (isCut_splitOn '\n' rest).nonempty
    | cons piece others =>
      rw [pieces] at ih
      simpa using ih

/-- A text that does not end with a mark has a last piece. -/
theorem getLast?_splitOn_concat {mark last : Char} (unended : last ≠ mark) (before : List Char) :
    (splitOn mark (before ++ [last])).getLast? ≠ some [] := by
  induction before with
  | nil => simp [splitOn, unended]
  | cons first rest ih =>
    cases pieces : splitOn mark (rest ++ [last]) with
    | nil => exact absurd pieces (isCut_splitOn mark _).nonempty
    | cons piece others =>
      rw [pieces] at ih
      by_cases same : first = mark
      · simpa [splitOn, same, pieces] using ih
      · cases others with
        | nil => simp [splitOn, same, pieces]
        | cons next more => simpa [splitOn, same, pieces] using ih

/-- A script without returns whose last line lacks its end is put under its header as a whole. -/
theorem wrap_concat {before : List Char} {last : Char} (noReturn : '\r' ∉ before ++ [last])
    (unended : last ≠ '\n') :
    wrap (before ++ [last]) =
      header ++ indentation ++ indented (before ++ [last]) ++ ['\n'] := by
  rw [wrap, lines_eq_splitOn noReturn (getLast?_splitOn_concat unended before), flatMap_splitOn]
  simp

/-- Three quotes. -/
def quotes : List Char := ['"', '"', '"']

/-- The literal of a text that needs no escapes. -/
def literal (text : List Char) : List Char := quotes ++ text ++ quotes

/-- What stands before a result. -/
def returnWord : List Char := "return ".toList

/-- The script that returns what a literal stands for. -/
def returning (text : List Char) : List Char := returnWord ++ literal text

/-- A text that stands for itself between three quotes, on lines that end without returns. -/
structure IsPlain (text : List Char) : Prop where
  noQuote : '"' ∉ text
  noBackslash : '\\' ∉ text
  noReturn : '\r' ∉ text

/-- A text is indented part by part. -/
theorem indented_append (before after : List Char) :
    indented (before ++ after) = indented before ++ indented after := by
  fun_induction indented before with
  | case1 => rfl
  | case2 rest ih => simp [indented, ih]
  | case3 first rest different ih => simp [indented, different, ih]

/-- A line that returns a plain text is wrapped as the line that returns the indented one. -/
theorem wrap_returning {text : List Char} (plain : IsPlain text) :
    wrap (returning text) =
      header ++ indentation ++ returnWord ++ literal (indented text) ++ ['\n'] := by
  have ended : returning text = (returnWord ++ quotes ++ text ++ ['"', '"']) ++ ['"'] := by
    simp [returning, literal, quotes]
  have inWord : '\r' ∉ returnWord := by decide
  have noReturn : '\r' ∉ returning text := by
    simp [returning, literal, quotes, plain.noReturn, inWord]
  have word : indented returnWord = returnWord := indented_of_notMem (by decide)
  have marks : indented quotes = quotes := indented_of_notMem (by decide)
  rw [ended] at noReturn ⊢
  rw [wrap_concat noReturn (by decide), ← ended]
  simp [returning, literal, indented_append, word, marks]

/-- The quotes of a literal cut it out of the text around it. -/
theorem splitOn_literal {text : List Char} (noQuote : '"' ∉ text) (before after : List Char) :
    splitOn '"' (before ++ literal text ++ after) =
      splitOn '"' before ++ [[], [], text, [], []] ++ splitOn '"' after := by
  have quoted : before ++ literal text ++ after =
      before ++ '"' :: ([] ++ '"' :: ([] ++ '"' :: (text ++ '"' :: ([] ++ '"' :: ([] ++ '"' ::
        after))))) := by
    simp [literal, quotes]
  rw [quoted]
  repeat rw [splitOn_append_cons]
  rw [splitOn_of_notMem noQuote, splitOn_of_notMem List.not_mem_nil]
  simp

/-- A literal is found in its wrapped script if and only if it is one line. -/
theorem literal_isInfix_wrap_iff {text : List Char} (plain : IsPlain text) :
    literal text <:+: wrap (returning text) ↔ '\n' ∉ text := by
  rw [wrap_returning plain]
  constructor
  · rintro ⟨before, after, found⟩
    have cut := congrArg (splitOn '"') found
    have noQuote : '"' ∉ indented text := mt (mem_indented (by decide)).mp plain.noQuote
    have start : '"' ∉ header ++ indentation ++ returnWord := by decide
    have stop : '"' ∉ ['\n'] := by decide
    rw [splitOn_literal plain.noQuote, splitOn_literal noQuote, splitOn_of_notMem start,
      splitOn_of_notMem stop] at cut
    obtain ⟨first, others, cutBefore⟩ :=
      List.exists_cons_of_ne_nil (isCut_splitOn '"' before).nonempty
    have cutAfter := List.length_pos_iff.mpr (isCut_splitOn '"' after).nonempty
    have sizes := congrArg List.length cut
    simp only [cutBefore, List.length_append, List.length_cons, List.length_nil] at sizes
    obtain rfl : others = [] := List.length_eq_zero_iff.mp (by omega)
    simp only [cutBefore, List.nil_append, List.cons_append, List.cons.injEq] at cut
    exact indented_eq_self_iff.mp cut.2.2.2.1.symm
  · intro oneLine
    rw [indented_of_notMem oneLine]
    exact ⟨_, _, rfl⟩

end ConfigDelivery.Script.Starlark
