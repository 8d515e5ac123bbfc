import ConfigDelivery.Json.Value
import Mathlib.Data.String.Basic
/-!
# Members of an object

The members of an object are a map from names to values, kept in ascending order of the names. An
insertion changes the member of its name alone and keeps the order, and members in order are
determined by what look-ups find.
-/

namespace ConfigDelivery.Json.Value

/-- Members have distinct names in ascending order. -/
def IsOrdered (members : Members) : Prop := (members.map Prod.fst).Pairwise (· < ·)

theorem isOrdered_nil : IsOrdered [] := List.Pairwise.nil

/-- Members are in order if the first name is less than the others, and these are in order. -/
theorem isOrdered_cons_iff {name : String} {value : Value} {members : Members} :
    IsOrdered ((name, value) :: members) ↔
      (∀ other ∈ members.map Prod.fst, name < other) ∧ IsOrdered members :=
  List.pairwise_cons

/-- After a member was put in, its name finds it, and every other name finds what it found
before. -/
theorem find?_insert (name other : String) (value : Value) (members : Members) :
    find? other (insert name value members)
      = if name = other then some value else find? other members := by
  induction members with
  | nil => rfl
  | cons member rest ih =>
    obtain ⟨first, old⟩ := member
    rw [insert]
    split
    · rfl
    · split
      · rename_i same
        subst same
        by_cases found : name = other <;> simp [find?, found]
      · rename_i different
        rw [find?, find?, ih]
        by_cases found : first = other
        · subst found
          rw [if_pos rfl, if_neg different, if_pos rfl]
        · rw [if_neg found, if_neg found]

/-- After a member was put in, its name is there beside the others. -/
theorem mem_names_insert {name other : String} {value : Value} {members : Members} :
    other ∈ (insert name value members).map Prod.fst ↔
      other = name ∨ other ∈ members.map Prod.fst := by
  induction members with
  | nil => simp [insert]
  | cons member rest ih =>
    obtain ⟨first, old⟩ := member
    rw [insert]
    split
    · simp
    · split
      · rename_i same
        simp [same]
      · rw [List.map_cons, List.mem_cons, ih, List.map_cons, List.mem_cons]
        exact or_left_comm

/-- An insertion keeps the order. -/
theorem IsOrdered.insert {members : Members} (ordered : IsOrdered members) (name : String)
    (value : Value) : IsOrdered (Value.insert name value members) := by
  induction members with
  | nil => exact List.pairwise_singleton ..
  | cons member rest ih =>
    obtain ⟨first, old⟩ := member
    obtain ⟨least, others⟩ := isOrdered_cons_iff.mp ordered
    rw [Value.insert]
    split
    · rename_i before
      refine isOrdered_cons_iff.mpr ⟨fun other mem => ?_, ordered⟩
      rcases List.mem_cons.mp mem with rfl | mem
      · exact before
      · exact lt_trans before (least other mem)
    · rename_i notBefore
      split
      · rename_i same
        subst same
        exact isOrdered_cons_iff.mpr ⟨least, others⟩
      · rename_i different
        refine isOrdered_cons_iff.mpr ⟨fun other mem => ?_, ih others⟩
        rcases mem_names_insert.mp mem with rfl | mem
        · exact lt_of_le_of_ne (not_lt.mp notBefore) (Ne.symm different)
        · exact least other mem

/-- A name finds nothing if it is not there. -/
theorem find?_eq_none_iff {name : String} {members : Members} :
    find? name members = none ↔ name ∉ members.map Prod.fst := by
  induction members with
  | nil => simp [find?]
  | cons member rest ih =>
    obtain ⟨first, value⟩ := member
    rw [find?, List.map_cons, List.mem_cons, not_or, ← ih]
    by_cases same : first = name
    · simp [same]
    · simp [same, Ne.symm same]

/-- A name is there if it finds a value. -/
theorem mem_names_iff {name : String} {members : Members} :
    name ∈ members.map Prod.fst ↔ ∃ value, find? name members = some value := by
  rw [← not_iff_not, ← find?_eq_none_iff, Option.eq_none_iff_forall_ne_some, not_exists]

/-- What a name finds is a member of that name. -/
theorem mem_of_find? {name : String} {value : Value} {members : Members}
    (found : find? name members = some value) : (name, value) ∈ members := by
  induction members with
  | nil => cases found
  | cons member rest ih =>
    obtain ⟨other, old⟩ := member
    rw [find?] at found
    split at found
    · rename_i same
      cases found
      subst same
      exact List.mem_cons_self ..
    · exact List.mem_cons_of_mem _ (ih found)

/-- In order, every member is found by its name. -/
theorem IsOrdered.find?_of_mem {members : Members} (ordered : IsOrdered members)
    {member : String × Value} (mem : member ∈ members) :
    find? member.1 members = some member.2 := by
  induction members with
  | nil => cases mem
  | cons first rest ih =>
    obtain ⟨other, old⟩ := first
    obtain ⟨least, isOrdered⟩ := isOrdered_cons_iff.mp ordered
    rw [find?]
    rcases List.mem_cons.mp mem with rfl | later
    · exact if_pos rfl
    · rw [if_neg (ne_of_lt (least _ (List.mem_map_of_mem later)))]
      exact ih isOrdered later

/-- Members in order are the same when look-ups find the same. -/
theorem IsOrdered.ext {members others : Members} (ordered : IsOrdered members)
    (alsoOrdered : IsOrdered others) (same : ∀ name, find? name members = find? name others) :
    members = others := by
  induction members generalizing others with
  | nil =>
    cases others with
    | nil => rfl
    | cons other rest => simpa [find?] using same other.1
  | cons member rest ih =>
    obtain ⟨name, value⟩ := member
    cases others with
    | nil => simpa [find?] using same name
    | cons other rest' =>
      obtain ⟨name', value'⟩ := other
      obtain ⟨least, isOrdered⟩ := isOrdered_cons_iff.mp ordered
      obtain ⟨least', isOrdered'⟩ := isOrdered_cons_iff.mp alsoOrdered
      have named : name ∈ ((name', value') :: rest').map Prod.fst := by
        by_contra absent
        have missing := (same name).trans (find?_eq_none_iff.mpr absent)
        simp [find?] at missing
      have named' : name' ∈ ((name, value) :: rest).map Prod.fst := by
        by_contra absent
        have missing := (same name').symm.trans (find?_eq_none_iff.mpr absent)
        simp [find?] at missing
      have sameName : name = name' := by
        rcases List.mem_cons.mp named with rfl | later
        · rfl
        · rcases List.mem_cons.mp named' with rfl | later'
          · rfl
          · exact absurd (lt_trans (least' _ later) (least _ later')) (lt_irrefl _)
      subst sameName
      have sameValue : value = value' := by simpa [find?] using same name
      have sameRest : rest = rest' := by
        refine ih isOrdered isOrdered' fun other => ?_
        by_cases first : name = other
        · subst first
          rw [find?_eq_none_iff.mpr fun mem => lt_irrefl _ (least _ mem),
            find?_eq_none_iff.mpr fun mem => lt_irrefl _ (least' _ mem)]
        · simpa [find?, first] using same other
      rw [sameValue, sameRest]

end ConfigDelivery.Json.Value
