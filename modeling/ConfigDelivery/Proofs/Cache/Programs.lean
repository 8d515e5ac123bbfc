import ConfigDelivery.Cache.Programs
/-!
# What a program cache answers

A program comes from a fresh entry or from the compiler, and an entry comes into the cache by a call
that had the compiler answer its program. Nothing is said about how long an entry stays.
-/

namespace ConfigDelivery.Cache

variable {Program Fault : Type}

namespace ProgramCache

/-- The entries of a cache are among those of another one with the same time to live. -/
structure IsWithin (cache whole : ProgramCache Program) : Prop where
  timeToLive : cache.timeToLive = whole.timeToLive
  entries : ∀ {id entry}, cache.entries.find? id = some entry →
    whole.entries.find? id = some entry

variable {cache : ProgramCache Program}

theorem isWithin_refl (cache : ProgramCache Program) : cache.IsWithin cache :=
  ⟨rfl, fun found => found⟩

theorem IsWithin.trans {middle whole : ProgramCache Program} (inner : cache.IsWithin middle)
    (outer : middle.IsWithin whole) : cache.IsWithin whole where
  timeToLive := inner.timeToLive.trans outer.timeToLive
  entries found := outer.entries (inner.entries found)

/-- To drop an entry leaves nothing that was not there. -/
theorem isWithin_erase (cache : ProgramCache Program) (id : String) (order : List String) :
    { cache with entries := cache.entries.erase id, order }.IsWithin cache where
  timeToLive := rfl
  entries found := by
    rw [Table.find?_erase] at found
    split at found
    · cases found
    · exact found

theorem isWithin_remove (cache : ProgramCache Program) (id : String) :
    (cache.remove id).IsWithin cache := by
  unfold remove
  split
  · exact isWithin_erase ..
  · exact isWithin_refl cache

/-- A cache with its oldest programs evicted holds nothing new. -/
theorem isWithin_evict (fuel : Nat) (cache : ProgramCache Program) :
    (evict fuel cache).IsWithin cache := by
  induction fuel generalizing cache with
  | zero => exact isWithin_refl cache
  | succ fuel ih =>
    rw [evict]
    split
    · split
      · exact isWithin_refl cache
      · exact (ih _).trans (isWithin_erase ..)
    · exact isWithin_refl cache

/-- An entry after an insertion is the new one or an old one. -/
theorem find?_insert {id other : String} {program : Program} {now : Instant}
    {entry : ProgramEntry Program}
    (found : (cache.insert id program now).entries.find? other = some entry) :
    (other = id ∧ entry = ⟨program, now⟩) ∨ cache.entries.find? other = some entry := by
  have inserted := (isWithin_evict _ _).entries found
  dsimp only at inserted
  rw [Table.find?_insert] at inserted
  split at inserted
  · rename_i same
    exact .inl ⟨same.symm, (Option.some.inj inserted).symm⟩
  · exact .inr ((isWithin_remove cache id).entries inserted)

theorem timeToLive_insert (cache : ProgramCache Program) (id : String) (program : Program)
    (now : Instant) : (cache.insert id program now).timeToLive = cache.timeToLive :=
  (isWithin_evict _ _).timeToLive.trans (isWithin_remove cache id).timeToLive

/-- What asking for a program comes to: the program of a fresh entry, or what the compiler answers,
whose program may be put in. -/
inductive Obtained (cache : ProgramCache Program) (id : String) (now : Instant)
    (compile : Unit → Except Fault Program) : Except Fault Program → ProgramCache Program → Prop
  where
  | kept {entry} (isNamed : id ≠ "") (found : cache.entries.find? id = some entry)
      (fresh : now - entry.insertedAt ≤ cache.timeToLive) :
      Obtained cache id now compile (.ok entry.program) cache
  | compiled {after} (timeToLive : after.timeToLive = cache.timeToLive)
      (entries : ∀ {other entry}, after.entries.find? other = some entry →
        cache.entries.find? other = some entry ∨
        id ≠ "" ∧ other = id ∧ entry.insertedAt = now ∧ compile () = .ok entry.program) :
      Obtained cache id now compile (compile ()) after

/-- Where the entry of an identifier holds what the compiler answers, asking comes to that. -/
theorem Obtained.eq_compile {id : String} {now : Instant} {compile : Unit → Except Fault Program}
    {outcome : Except Fault Program} {after : ProgramCache Program}
    (obtained : cache.Obtained id now compile outcome after)
    (current : ∀ {entry}, cache.entries.find? id = some entry → compile () = .ok entry.program) :
    outcome = compile () := by
  cases obtained with
  | kept isNamed found fresh => exact (current found).symm
  | compiled timeToLive entries => rfl

/-- What asking comes to is what the compiler answers, or the program of a fresh entry. -/
theorem Obtained.eq_or_fresh {id : String} {now : Instant} {compile : Unit → Except Fault Program}
    {outcome : Except Fault Program} {after : ProgramCache Program}
    (obtained : cache.Obtained id now compile outcome after) :
    outcome = compile () ∨ ∃ entry, id ≠ "" ∧ cache.entries.find? id = some entry ∧
      now - entry.insertedAt ≤ cache.timeToLive ∧ outcome = .ok entry.program := by
  cases obtained with
  | kept isNamed found fresh => exact .inr ⟨_, isNamed, found, fresh, rfl⟩
  | compiled timeToLive entries => exact .inl rfl

/-- To obtain a program leaves the time to live as it is. -/
theorem Obtained.timeToLive_eq {id : String} {now : Instant}
    {compile : Unit → Except Fault Program} {outcome : Except Fault Program}
    {after : ProgramCache Program} (obtained : cache.Obtained id now compile outcome after) :
    after.timeToLive = cache.timeToLive := by
  cases obtained with
  | kept isNamed found fresh => rfl
  | compiled timeToLive entries => exact timeToLive

/-- An entry afterwards is an old one, or that of what the compiler answered. -/
theorem Obtained.find? {id : String} {now : Instant} {compile : Unit → Except Fault Program}
    {outcome : Except Fault Program} {after : ProgramCache Program}
    (obtained : cache.Obtained id now compile outcome after) {other : String}
    {entry : ProgramEntry Program} (found : after.entries.find? other = some entry) :
    cache.entries.find? other = some entry ∨
    id ≠ "" ∧ other = id ∧ entry.insertedAt = now ∧ compile () = .ok entry.program := by
  cases obtained with
  | kept isNamed fresh => exact .inl found
  | compiled timeToLive entries => exact entries found

/-! ## Calls of the compiler -/

/-- The answer of the compiler, which was called once, and the cache with its program put in. -/
def compiled (cache : ProgramCache Program) (id : String) (now : Instant) :
    Except Fault Program → Compiled Program Fault
  | .ok program => ⟨.ok program, 1, cache.insert id program now⟩
  | .error fault => ⟨.error fault, 1, cache⟩

/-- Without an identifier the compiler is called, and the cache is left alone. -/
theorem getOrCompile_unnamed (cache : ProgramCache Program) (now : Instant)
    (compile : Unit → Except Fault Program) :
    cache.getOrCompile "" now compile = ⟨compile (), 1, cache⟩ :=
  rfl

/-- A named program is compiled exactly when it is not there or has expired, and an expired one is
removed first. -/
theorem getOrCompile_named {id : String} (isNamed : id ≠ "") (now : Instant)
    (compile : Unit → Except Fault Program) :
    cache.getOrCompile id now compile =
      match cache.lookup id now with
      | .fresh program => ⟨.ok program, 0, cache⟩
      | .expired => (cache.remove id).compiled id now (compile ())
      | .absent => cache.compiled id now (compile ()) := by
  have named : ¬ id.isEmpty = true := by simpa using isNamed
  rw [getOrCompile, obtain, if_neg named]
  cases cache.lookup id now with
  | fresh program => rfl
  | expired => cases answer : compile () <;> simp [counting, compiled, clear, answer] <;> rfl
  | absent => cases answer : compile () <;> simp [counting, compiled, answer] <;> rfl

/-- A fresh program is answered, and the compiler is not called. -/
theorem getOrCompile_of_fresh {id : String} (isNamed : id ≠ "") {now : Instant}
    {program : Program} (fresh : cache.lookup id now = .fresh program)
    (compile : Unit → Except Fault Program) :
    cache.getOrCompile id now compile = ⟨.ok program, 0, cache⟩ := by
  rw [getOrCompile_named isNamed, fresh]

/-- What the compiler answers is obtained, also when the expired program was removed before. -/
theorem IsWithin.compiled {before : ProgramCache Program} (within : before.IsWithin cache)
    {id : String} (isNamed : id ≠ "") (now : Instant) (compile : Unit → Except Fault Program) :
    cache.Obtained id now compile (before.compiled id now (compile ())).outcome
      (before.compiled id now (compile ())).cache := by
  cases answer : compile () with
  | error fault =>
    have obtained : cache.Obtained id now compile (compile ()) before :=
      .compiled within.timeToLive fun found => .inl (within.entries found)
    rw [answer] at obtained
    exact obtained
  | ok program =>
    have obtained : cache.Obtained id now compile (compile ()) (before.insert id program now) := by
      refine .compiled ((timeToLive_insert ..).trans within.timeToLive) fun found => ?_
      rcases find?_insert found with ⟨rfl, rfl⟩ | old
      · exact .inr ⟨isNamed, rfl, rfl, answer⟩
      · exact .inl (within.entries old)
    rw [answer] at obtained
    exact obtained

/-- Whatever is asked for, its outcome is obtained from the cache or from the compiler. -/
theorem getOrCompile_obtained (cache : ProgramCache Program) (id : String) (now : Instant)
    (compile : Unit → Except Fault Program) :
    cache.Obtained id now compile (cache.getOrCompile id now compile).outcome
      (cache.getOrCompile id now compile).cache := by
  by_cases unnamed : id = ""
  · subst unnamed
    rw [getOrCompile_unnamed]
    exact .compiled rfl fun found => .inl found
  · rw [getOrCompile_named unnamed, lookup]
    cases found : cache.entries.find? id with
    | none => exact (isWithin_refl cache).compiled unnamed now compile
    | some entry =>
      dsimp only
      by_cases fresh : now - entry.insertedAt ≤ cache.timeToLive
      · rw [if_pos fresh]
        exact .kept unnamed found fresh
      · rw [if_neg fresh]
        exact (isWithin_remove cache id).compiled unnamed now compile

end ProgramCache

end ConfigDelivery.Cache
