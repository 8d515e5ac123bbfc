import ConfigDelivery.Text.Blank
import Mathlib.Data.List.TakeWhile
/-!
# Trimmed texts

Trimming a text leaves what stands between the blanks at its two ends: it begins and ends with no
blank, and there is only one such part.
-/

namespace ConfigDelivery.Text

/-- What stands between the blanks at both ends of a text. -/
structure IsTrimmed (text core : String) : Prop where
  parts : ∃ before after, text.toList = before ++ core.toList ++ after ∧
    ∀ character ∈ before ++ after, isBlank character = true
  first : ∀ character, core.toList.head? = some character → isBlank character = false
  last : ∀ character, core.toList.getLast? = some character → isBlank character = false

/-- What is passed over is dropped up to the first character that is not. -/
theorem dropWhile_append_of_stops {p : Char → Bool} {before rest : List Char}
    (passed : ∀ character ∈ before, p character = true)
    (stops : ∀ character, rest.head? = some character → p character = false) :
    (before ++ rest).dropWhile p = rest := by
  rw [List.dropWhile_append_of_pos passed]
  cases rest with
  | nil => rfl
  | cons character others => rw [List.dropWhile_cons_of_neg (by simp [stops character rfl])]

/-- Blanks behind a text that does not end with one are trimmed. -/
theorem trimRight_append {core after : List Char}
    (passed : ∀ character ∈ after, isBlank character = true)
    (stops : ∀ character, core.getLast? = some character → isBlank character = false) :
    trimRight (core ++ after) = core := by
  rw [trimRight, List.reverse_append, dropWhile_append_of_stops, List.reverse_reverse]
  · exact fun character mem => passed character (List.mem_reverse.mp mem)
  · simpa [List.head?_reverse] using stops

/-- What is trimmed at the end is blank, and no blank is left there. -/
theorem trimRight_parts (characters : List Char) :
    ∃ after, characters = trimRight characters ++ after ∧
      (∀ character ∈ after, isBlank character = true) ∧
      ∀ character, (trimRight characters).getLast? = some character →
        isBlank character = false := by
  refine ⟨(characters.reverse.takeWhile isBlank).reverse, ?_, ?_, ?_⟩
  · rw [trimRight, ← List.reverse_append, List.takeWhile_append_dropWhile, List.reverse_reverse]
  · exact fun character mem => List.mem_takeWhile_imp (List.mem_reverse.mp mem)
  · intro character last
    rw [trimRight, List.getLast?_reverse] at last
    have stops := List.head?_dropWhile_not isBlank characters.reverse
    rwa [last] at stops

/-- Trimming finds what stands between the blanks at both ends. -/
theorem isTrimmed_trim (text : String) : IsTrimmed text (trim text) := by
  obtain ⟨after, parts, blank, last⟩ := trimRight_parts (trimLeft text.toList)
  have whole : text.toList
      = text.toList.takeWhile isBlank ++ trimRight (trimLeft text.toList) ++ after := by
    rw [List.append_assoc, ← parts, trimLeft, List.takeWhile_append_dropWhile]
  refine ⟨⟨text.toList.takeWhile isBlank, after, ?_, ?_⟩, ?_, ?_⟩
  · rwa [trim, String.toList_ofList]
  · intro character mem
    rcases List.mem_append.mp mem with mem | mem
    · exact List.mem_takeWhile_imp mem
    · exact blank character mem
  · intro character first
    rw [trim, String.toList_ofList] at first
    have stops := List.head?_dropWhile_not isBlank text.toList
    rw [← trimLeft, parts, List.head?_append, first] at stops
    exact stops
  · rwa [trim, String.toList_ofList]

/-- There is only one part of a text between the blanks at its ends. -/
theorem IsTrimmed.eq_trim {text core : String} (trimmed : IsTrimmed text core) :
    core = trim text := by
  obtain ⟨⟨before, after, parts, blank⟩, first, last⟩ := trimmed
  have blankBefore (character) (mem : character ∈ before) :=
    blank character (List.mem_append_left _ mem)
  have blankAfter (character) (mem : character ∈ after) :=
    blank character (List.mem_append_right _ mem)
  rw [trim, trimLeft, parts, List.append_assoc]
  cases chars : core.toList with
  | nil =>
    have nothing : (before ++ ([] ++ after)).dropWhile isBlank = [] :=
      List.dropWhile_eq_nil_iff.mpr blank
    rw [nothing, ← String.toList_inj, chars]
    rfl
  | cons character others =>
    rw [dropWhile_append_of_stops blankBefore, ← chars, trimRight_append blankAfter last,
      String.ofList_toList]
    rw [← chars, List.head?_append]
    intro other starts
    rw [chars] at starts
    exact first other (by rw [chars]; exact starts)

end ConfigDelivery.Text
