import ConfigDelivery.Text.Blank
/-!
# Pieces of a text

A text is cut at the occurrences of a character in one way only: into pieces that do not have the
character and that it joins to the text.
-/

namespace ConfigDelivery.Text

/-- A text is cut at the occurrences of a character. -/
structure IsCut (mark : Char) (text : List Char) (pieces : List (List Char)) : Prop where
  nonempty : pieces ≠ []
  unmarked : ∀ piece ∈ pieces, mark ∉ piece
  joined : [mark].intercalate pieces = text

/-- A text is split as lists are. -/
theorem splitOn_eq (mark : Char) (text : List Char) : splitOn mark text = text.splitOn mark := by
  induction text with
  | nil => rfl
  | cons character rest ih =>
    rw [splitOn, ih, List.splitOn_cons_eq_if_modifyHead]
    cases pieces : rest.splitOn mark with
    | nil => exact absurd pieces (List.splitOn_ne_nil _ _)
    | cons piece others => rfl

/-- No piece has the mark in it. -/
theorem splitOn_unmarked (mark : Char) (text : List Char) :
    ∀ piece ∈ splitOn mark text, mark ∉ piece := by
  induction text with
  | nil => simp [splitOn]
  | cons character rest ih =>
    by_cases same : character = mark
    · simpa [splitOn, same] using ih
    · rw [splitOn, if_neg (by simpa using same)]
      cases pieces : splitOn mark rest with
      | nil => simpa using Ne.symm same
      | cons piece others =>
        rw [pieces] at ih
        simpa [Ne.symm same] using ih

/-- A piece has no characters but those of the text. -/
theorem splitOn_subset (mark : Char) (text : List Char) :
    ∀ piece ∈ splitOn mark text, piece ⊆ text := by
  induction text with
  | nil => simp [splitOn]
  | cons character rest ih =>
    have within (piece : List Char) (isPiece : piece ∈ splitOn mark rest) :
        piece ⊆ character :: rest := List.subset_cons_of_subset _ (ih piece isPiece)
    by_cases same : character = mark
    · simpa [splitOn, same] using same ▸ within
    · rw [splitOn, if_neg (by simpa using same)]
      cases pieces : splitOn mark rest with
      | nil => simp
      | cons piece others =>
        rw [pieces] at ih within
        rintro found (_ | ⟨_, isOther⟩)
        · exact List.cons_subset_cons _ (ih piece List.mem_cons_self)
        · exact within found (List.mem_cons_of_mem _ isOther)

/-- The pieces of a text are a cut of it. -/
theorem isCut_splitOn (mark : Char) (text : List Char) : IsCut mark text (splitOn mark text) where
  nonempty := by
    rw [splitOn_eq]
    exact List.splitOn_ne_nil _ _
  unmarked := splitOn_unmarked mark text
  joined := by
    rw [splitOn_eq]
    exact List.intercalate_splitOn mark

/-- The pieces of a text are the only ones that it can be cut into. -/
theorem IsCut.eq_splitOn {mark : Char} {text : List Char} {pieces : List (List Char)}
    (cut : IsCut mark text pieces) : pieces = splitOn mark text := by
  rw [splitOn_eq, ← cut.joined, List.splitOn_intercalate mark cut.unmarked cut.nonempty]

/-- A text without the mark is one piece. -/
theorem splitOn_of_notMem {mark : Char} {text : List Char} (unmarked : mark ∉ text) :
    splitOn mark text = [text] :=
  (IsCut.eq_splitOn ⟨by simp, by simpa using unmarked, by simp⟩).symm

/-- A text is split at a mark into the pieces before it and those behind it. -/
theorem splitOn_append_cons (mark : Char) (before after : List Char) :
    splitOn mark (before ++ mark :: after) = splitOn mark before ++ splitOn mark after := by
  rw [splitOn_eq, splitOn_eq, splitOn_eq, List.splitOn_append_cons_self]

end ConfigDelivery.Text
