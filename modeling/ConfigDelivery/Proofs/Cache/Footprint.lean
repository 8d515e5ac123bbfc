import ConfigDelivery.Proofs.Cache.Interleaving
/-!
# What asking for a program touches

Asking a cache for the program of an identifier changes nothing, drops the entry of the identifier,
or puts a program in as its newest entry, at the cost of at most one other: the oldest.
-/

namespace ConfigDelivery.Cache.ProgramCache

variable {Program Fault : Type}

/-- A cache is touched at one identifier: nothing changes, the entry of the identifier is dropped,
or a program comes last in its place. -/
inductive Touches (before : ProgramCache Program) (id : String) : ProgramCache Program → Prop
  | nothing : Touches before id before
  | dropped : Touches before id (before.remove id)
  | renewed {after entry} (comesLast : before.ComesLast after id entry) : Touches before id after

/-- A cache is touched at some identifiers, one after the other. -/
inductive TouchesAll : ProgramCache Program → List String → ProgramCache Program → Prop
  | none {cache} : TouchesAll cache [] cache
  | next {before middle after id ids} (touches : Touches before id middle)
      (rest : TouchesAll middle ids after) : TouchesAll before (id :: ids) after

/-- Where nothing is touched, nothing changes. -/
theorem TouchesAll.eq_of_nil {before after : ProgramCache Program}
    (touches : before.TouchesAll [] after) : after = before := by
  cases touches
  rfl

theorem TouchesAll.of_singleton {before after : ProgramCache Program} {id : String}
    (touches : before.TouchesAll [id] after) : before.Touches id after := by
  cases touches with
  | next touches rest => exact rest.eq_of_nil ▸ touches

variable {cache : ProgramCache Program}

/-- A removed program is no longer there. -/
theorem contains_remove (cache : ProgramCache Program) (id : String) :
    (cache.remove id).entries.contains id = false := by
  unfold remove
  split
  · rw [Table.contains, Table.find?_erase, if_pos rfl]
    rfl
  · rename_i absent
    exact Bool.eq_false_iff.mpr absent

/-- To remove a program that is not there changes nothing. -/
theorem remove_of_not_contains {id : String} (absent : cache.entries.contains id = false) :
    cache.remove id = cache :=
  if_neg (Bool.eq_false_iff.mp absent)

/-- An insertion drops the entry of its identifier anyway. -/
theorem insert_remove (cache : ProgramCache Program) (id : String) (program : Program)
    (now : Instant) : (cache.remove id).insert id program now = cache.insert id program now := by
  rw [insert, insert, remove_of_not_contains (contains_remove cache id)]

/-- What is looked up in vain has expired or is not there. -/
theorem stale_of_lookup {id : String} {now : Instant}
    (vain : ∀ program, cache.lookup id now ≠ .fresh program) :
    cache.lookup id now = .expired ∨
      cache.lookup id now = .absent ∧ cache.remove id = cache := by
  unfold lookup at vain ⊢
  cases found : cache.entries.find? id with
  | none =>
    refine .inr ⟨rfl, remove_of_not_contains ?_⟩
    rw [Table.contains, found]
    rfl
  | some entry =>
    rw [found] at vain
    dsimp only at vain ⊢
    split
    · rename_i fresh
      exact absurd (if_pos fresh) (vain entry.program)
    · exact .inl rfl

/-- Asking for a program touches a cache at its identifier, and leaves it in order. -/
theorem ShowsNamed.getOrCompile {maxEntries : Nat} (shows : cache.ShowsNamed maxEntries)
    {id : String} (isNamed : id ≠ "") (now : Instant) (compile : Unit → Except Fault Program) :
    cache.Touches id (cache.getOrCompile id now compile).cache ∧
      (cache.getOrCompile id now compile).cache.ShowsNamed maxEntries := by
  by_cases fresh : ∃ program, cache.lookup id now = .fresh program
  · obtain ⟨program, fresh⟩ := fresh
    rw [getOrCompile_of_fresh isNamed fresh]
    exact ⟨.nothing, shows⟩
  · rw [getOrCompile_of_stale isNamed compile (stale_of_lookup (not_exists.mp fresh))]
    cases compile () with
    | error fault => exact ⟨.dropped, shows.clear id⟩
    | ok program =>
      rw [compiled, insert_remove]
      exact ⟨.renewed (shows.comesLast id program now), shows.insert isNamed program now⟩

end ConfigDelivery.Cache.ProgramCache
