import ConfigDelivery.Proofs.Cache.Queue
/-!
# Calls that share a program cache

The calls of many callers on one cache take turns move by move: the look-up under the shared lock,
the removal of an expired entry, the compiler, which runs without a lock, and the insertion with its
evictions. Any move of any call may come next, and outside removals in between. A call that is left
alone answers and leaves what `ProgramCache.getOrCompile` does. In every order the table of a cache
and its order stay in step, and a call answers what its own compiler said or what the compiler said
to another call for the same identifier.
-/

namespace ConfigDelivery.Cache

variable {Program Fault : Type}

/-! ## Calls that take turns -/

/-- What a call does next. -/
inductive CallStage (Program Fault : Type) where
  | lookingUp
  | dropping
  | compiling
  | inserting (program : Program)
  | returned (outcome : Except Fault Program)
  deriving DecidableEq

/-- A call for the program of an identifier, and what the compiler said to it so far. -/
structure ProgramCall (Program Fault : Type) where
  id : String
  askedAt : Instant
  stage : CallStage Program Fault
  compiled : Option (Except Fault Program) := none
  deriving DecidableEq

/-- What a call can do at one go: each move but the compiler's is the section under one lock. -/
inductive CallMove (Program Fault : Type) where
  | lookUp
  | drop
  | compile (outcome : Except Fault Program)
  | insert

namespace ProgramCall

/-- A call that begins. The empty identifier goes straight to the compiler. -/
def asked (id : String) (now : Instant) : ProgramCall Program Fault :=
  { id, askedAt := now, stage := if id.isEmpty then .compiling else .lookingUp }

/-- What a look-up comes to. -/
def found (call : ProgramCall Program Fault) : ProgramLookup Program → ProgramCall Program Fault
  | .fresh program => { call with stage := .returned (.ok program) }
  | .expired => { call with stage := .dropping }
  | .absent => { call with stage := .compiling }

/-- What the compiler's answer comes to. Programs without an identifier and faults are not kept. -/
def told (call : ProgramCall Program Fault) (outcome : Except Fault Program) :
    ProgramCall Program Fault :=
  let stage :=
    match outcome with
    | .ok program => if call.id.isEmpty then .returned outcome else .inserting program
    | .error _ => .returned outcome
  { call with stage, compiled := some outcome }

/-- The call and the cache after a move; a move that is not the call's next one changes nothing. -/
def move (call : ProgramCall Program Fault) (cache : ProgramCache Program) :
    CallMove Program Fault → ProgramCall Program Fault × ProgramCache Program
  | .lookUp =>
    match call.stage with
    | .lookingUp => (call.found (cache.lookup call.id call.askedAt), cache)
    | _ => (call, cache)
  | .drop =>
    match call.stage with
    | .dropping => ({ call with stage := .compiling }, (cache.clear call.id).2)
    | _ => (call, cache)
  | .compile outcome =>
    match call.stage with
    | .compiling => (call.told outcome, cache)
    | _ => (call, cache)
  | .insert =>
    match call.stage with
    | .inserting program =>
      ({ call with stage := .returned (.ok program) }, cache.insert call.id program call.askedAt)
    | _ => (call, cache)

/-- The call and the cache after some moves that nothing comes between. -/
def moves (call : ProgramCall Program Fault) (cache : ProgramCache Program) :
    List (CallMove Program Fault) → ProgramCall Program Fault × ProgramCache Program
  | [] => (call, cache)
  | next :: rest => moves (call.move cache next).1 (call.move cache next).2 rest

/-- A call that is left alone answers and leaves what asking the cache does. -/
theorem moves_eq_getOrCompile (cache : ProgramCache Program) (id : String) (now : Instant)
    (compile : Unit → Except Fault Program) :
    let compiled := cache.getOrCompile id now compile
    let (call, after) := (asked id now).moves cache [.lookUp, .drop, .compile (compile ()), .insert]
    call.stage = .returned compiled.outcome ∧ after = compiled.cache ∧
    call.compiled = if compiled.calls = 0 then none else some (compile ()) := by
  by_cases unnamed : id = ""
  · subst unnamed
    rw [ProgramCache.getOrCompile_unnamed]
    cases answer : compile () <;> simp [moves, move, asked, told]
  · rw [ProgramCache.getOrCompile_named unnamed]
    cases looked : cache.lookup id now with
    | fresh program => simp [moves, move, asked, found, unnamed, looked]
    | expired =>
      cases answer : compile () <;>
        simp [moves, move, asked, found, told, ProgramCache.clear, ProgramCache.compiled, unnamed,
          looked]
    | absent =>
      cases answer : compile () <;>
        simp [moves, move, asked, found, told, ProgramCache.compiled, unnamed, looked]

end ProgramCall

/-- A cache and the calls that were begun on it, in their order. -/
structure SharedCache (Program Fault : Type) where
  cache : ProgramCache Program
  calls : List (ProgramCall Program Fault) := []

/-- What can come next: a new call, a move of a call, or a removal. -/
inductive Turn (Program Fault : Type) where
  | ask (id : String) (now : Instant)
  | move (call : Nat) (move : CallMove Program Fault)
  | clear (id : String)

namespace SharedCache

/-- The cache and the calls after a turn. -/
def step (shared : SharedCache Program Fault) : Turn Program Fault → SharedCache Program Fault
  | .ask id now => { shared with calls := shared.calls ++ [.asked id now] }
  | .move number move =>
    match shared.calls[number]? with
    | some call =>
      let (call, cache) := call.move shared.cache move
      { cache, calls := shared.calls.set number call }
    | none => shared
  | .clear id => { shared with cache := (shared.cache.clear id).2 }

/-- The cache and the calls after some turns. -/
def after (shared : SharedCache Program Fault) (turns : List (Turn Program Fault)) :
    SharedCache Program Fault :=
  turns.foldl step shared

/-- A cache without programs on which no call was begun. -/
def new (timeToLive : Duration) (maxEntries : Nat) : SharedCache Program Fault :=
  { cache := .new timeToLive maxEntries }

/-- The turns of a new call that nothing comes between; the compiler would say `outcome` to it. -/
def uninterrupted (number : Nat) (id : String) (now : Instant) (outcome : Except Fault Program) :
    List (Turn Program Fault) :=
  [.ask id now, .move number .lookUp, .move number .drop, .move number (.compile outcome),
    .move number .insert]

/-- The compiler answered a program to a call for an identifier. -/
def HasCompiled (calls : List (ProgramCall Program Fault)) (id : String) (program : Program) :
    Prop :=
  ∃ call ∈ calls, call.id = id ∧ call.compiled = some (.ok program)

end SharedCache

/-! ## What a cache is between two turns -/

namespace ProgramCache

/-- The order names every key of the table once and nothing else, none of them empty, and there are
no more than allowed. -/
structure IsCoherent (cache : ProgramCache Program) (maxEntries : Nat) : Prop
    extends cache.IsInStep where
  named : "" ∉ cache.order
  bounded : cache.order.length ≤ max maxEntries 1

/-- A program came last, in place of the one of its identifier, at the cost of at most one other
entry: the oldest. -/
def ComesLast (before after : ProgramCache Program) (id : String) (entry : ProgramEntry Program) :
    Prop :=
  ∃ evicted : List String, evicted.length ≤ 1 ∧ id ∉ evicted ∧
    before.order.erase id ++ [id] = evicted ++ after.order ∧
    ∀ other, after.entries.find? other =
      if other ∈ evicted then none
      else if other = id then some entry else before.entries.find? other

variable {cache : ProgramCache Program} {queue : ProgramQueue Program} {maxEntries : Nat}

/-- A cache that shows a queue of named programs is coherent. -/
theorem Shows.isCoherent (shows : cache.Shows queue) (named : ∀ item ∈ queue.items, item.id ≠ "") :
    cache.IsCoherent queue.maxEntries where
  toIsInStep := shows.lists.toIsInStep
  named := by
    rw [shows.lists.order]
    intro inside
    obtain ⟨item, inside, unnamed⟩ := List.mem_map.mp inside
    exact named item inside unnamed
  bounded := shows.maxEntries ▸ shows.bounded

/-- A removed identifier leaves the order of the others as it is. -/
theorem order_remove (inStep : cache.IsInStep) (id : String) :
    (cache.remove id).order = cache.order.erase id := by
  unfold ProgramCache.remove
  split
  · rfl
  · rename_i absent
    exact (List.erase_of_not_mem fun inside => absent ((inStep.contains_iff id).mpr inside)).symm

/-- What a queue finds after a program came last. -/
theorem Shows.find?_last (shows : cache.Shows queue) (item : QueuedProgram Program)
    (other : String) :
    (((queue.drop item.id).items ++ [item]).find? fun item => item.id = other).map
        QueuedProgram.entry
      = if other = item.id then some item.entry else cache.entries.find? other := by
  rw [List.find?_append, ProgramQueue.drop, find?_filter_ne]
  by_cases same : item.id = other
  · simp [same]
  · simp [same, Ne.symm same, shows.lists.find?]

/-- Without the oldest program, all others are found as before. -/
theorem find?_others {oldest : QueuedProgram Program} {others : List (QueuedProgram Program)}
    (distinct : ((oldest :: others).map QueuedProgram.id).Nodup) (id : String) :
    (others.find? fun item => item.id = id)
      = if id = oldest.id then none else (oldest :: others).find? fun item => item.id = id := by
  rw [List.map_cons, List.nodup_cons] at distinct
  by_cases same : id = oldest.id
  · subst same
    simpa using distinct.1
  · simp [same, Ne.symm same]

/-- A program that is put in comes last, and those before it are left in their order. -/
theorem Shows.comesLast (shows : cache.Shows queue) (item : QueuedProgram Program) :
    cache.ComesLast (cache.insert item.id item.program item.insertedAt) item.id item.entry := by
  have removed := shows.remove item.id
  have absent : ∀ other ∈ (queue.drop item.id).items, other.id ≠ item.id := by
    intro other inside
    simpa using (List.mem_filter.mp inside).2
  have added := removed.lists.add item absent
  have inserted := (shows.insert item).lists
  have found := shows.find?_last item
  have listed : cache.order.erase item.id ++ [item.id]
      = ((queue.drop item.id).items ++ [item]).map QueuedProgram.id := by
    rw [← order_remove shows.lists.toIsInStep, ← added.order]
  have distinct : (((queue.drop item.id).items ++ [item]).map QueuedProgram.id).Nodup :=
    added.order ▸ added.distinct
  unfold ProgramQueue.append at inserted
  dsimp only at inserted
  unfold ComesLast
  rw [listed]
  by_cases crowded :
      max (queue.drop item.id).maxEntries 1 < ((queue.drop item.id).items ++ [item]).length
  · rw [if_pos crowded] at inserted
    cases items : (queue.drop item.id).items with
    | nil =>
      rw [items, List.nil_append, List.length_singleton] at crowded
      omega
    | cons oldest rest =>
      have others : oldest.id ≠ item.id := absent oldest (items ▸ List.mem_cons_self ..)
      rw [items, List.cons_append] at found distinct inserted
      rw [List.cons_append]
      refine ⟨[oldest.id], Nat.le_refl 1, by simpa using others.symm, ?_, fun other => ?_⟩
      · rw [inserted.order]
        rfl
      · rw [inserted.find?, List.tail_cons, find?_others distinct, ← found]
        by_cases same : other = oldest.id <;> simp [same]
  · rw [if_neg crowded] at inserted
    refine ⟨[], Nat.zero_le 1, List.not_mem_nil, ?_, fun other => ?_⟩
    · rw [inserted.order]
      rfl
    · rw [inserted.find?, found]
      simp

/-- A cache shows a queue of programs that all have an identifier. -/
def ShowsNamed (cache : ProgramCache Program) (maxEntries : Nat) : Prop :=
  ∃ queue, cache.Shows queue ∧ queue.maxEntries = maxEntries ∧ ∀ item ∈ queue.items, item.id ≠ ""

/-- A new cache shows a queue with nothing in it. -/
theorem showsNamed_new (timeToLive : Duration) (maxEntries : Nat) :
    (new timeToLive maxEntries : ProgramCache Program).ShowsNamed maxEntries :=
  ⟨_, shows_new timeToLive maxEntries, rfl, nofun⟩

/-- What shows some queue of named programs is coherent. -/
theorem ShowsNamed.isCoherent (shows : cache.ShowsNamed maxEntries) :
    cache.IsCoherent maxEntries := by
  obtain ⟨queue, shows, rfl, named⟩ := shows
  exact shows.isCoherent named

/-- To clear an expired program leaves a cache that shows a queue. -/
theorem ShowsNamed.clear (shows : cache.ShowsNamed maxEntries) (id : String) :
    (cache.clear id).2.ShowsNamed maxEntries := by
  obtain ⟨queue, shows, rfl, named⟩ := shows
  refine ⟨queue.drop id, shows.remove id, rfl, fun item inside => ?_⟩
  exact named item (List.mem_filter.mp inside).1

/-- To put a named program in leaves a cache that shows a queue. -/
theorem ShowsNamed.insert (shows : cache.ShowsNamed maxEntries) {id : String} (isNamed : id ≠ "")
    (program : Program) (now : Instant) :
    (cache.insert id program now).ShowsNamed maxEntries := by
  obtain ⟨queue, shows, rfl, named⟩ := shows
  refine ⟨_, shows.insert ⟨id, program, now⟩, rfl, fun item inside => ?_⟩
  have listed : item ∈ (queue.drop id).items ++ [⟨id, program, now⟩] := by
    unfold ProgramQueue.append at inside
    dsimp only at inside
    split at inside
    · exact List.mem_of_mem_tail inside
    · exact inside
  rcases List.mem_append.mp listed with old | new
  · exact named item (List.mem_filter.mp old).1
  · rw [List.mem_singleton.mp new]
    exact isNamed

/-- In a cache that shows a queue, what is put in comes last. -/
theorem ShowsNamed.comesLast (shows : cache.ShowsNamed maxEntries) (id : String)
    (program : Program) (now : Instant) :
    cache.ComesLast (cache.insert id program now) id ⟨program, now⟩ := by
  obtain ⟨queue, shows, _⟩ := shows
  exact shows.comesLast ⟨id, program, now⟩

end ProgramCache

/-! ## What a call is between two turns -/

/-- A call answers what the compiler said to it, or a program that the compiler answered to some
call for the same identifier. -/
def ProgramCall.Answers (call : ProgramCall Program Fault)
    (calls : List (ProgramCall Program Fault)) (outcome : Except Fault Program) : Prop :=
  call.compiled = some outcome ∨
  ∃ program, outcome = .ok program ∧ SharedCache.HasCompiled calls call.id program

/-- What is sure of a call at each stage. -/
def ProgramCall.IsSound (call : ProgramCall Program Fault)
    (calls : List (ProgramCall Program Fault)) : Prop :=
  match call.stage with
  | .lookingUp | .dropping => call.id ≠ "" ∧ call.compiled = none
  | .compiling => call.compiled = none
  | .inserting program => call.id ≠ "" ∧ call.compiled = some (.ok program)
  | .returned outcome => call.Answers calls outcome

/-- A later state of a call: what the compiler said stays said. -/
structure ProgramCall.Continues (call later : ProgramCall Program Fault) : Prop where
  id : later.id = call.id
  compiled : ∀ {outcome}, call.compiled = some outcome → later.compiled = some outcome

namespace SharedCache

variable {shared : SharedCache Program Fault} {calls later : List (ProgramCall Program Fault)}
  {call : ProgramCall Program Fault} {maxEntries : Nat}

/-- Every call is still there, in the same or a later state. -/
def Continue (calls later : List (ProgramCall Program Fault)) : Prop :=
  ∀ call ∈ calls, ∃ after ∈ later, call.Continues after

/-- What a call has compiled it has compiled whatever happens later. -/
theorem HasCompiled.mono {id : String} {program : Program} (compiled : HasCompiled calls id program)
    (continued : Continue calls later) : HasCompiled later id program := by
  obtain ⟨call, inside, rfl, said⟩ := compiled
  obtain ⟨after, inside, continues⟩ := continued call inside
  exact ⟨after, inside, continues.id, continues.compiled said⟩

/-- A call that is sound stays so while the others go on. -/
theorem isSound_mono (sound : call.IsSound calls) (continued : Continue calls later) :
    call.IsSound later := by
  unfold ProgramCall.IsSound at sound ⊢
  split at sound
  · exact sound
  · exact sound
  · exact sound
  · exact sound
  · rcases sound with own | ⟨program, rfl, compiled⟩
    · exact .inl own
    · exact .inr ⟨program, rfl, compiled.mono continued⟩

/-- New calls leave the old ones as they are. -/
theorem continue_append (calls more : List (ProgramCall Program Fault)) :
    Continue calls (calls ++ more) :=
  fun call inside => ⟨call, List.mem_append_left _ inside, rfl, id⟩

/-- A call that goes on leaves the others as they are. -/
theorem continue_set {number : Nat} (isCall : calls[number]? = some call)
    {after : ProgramCall Program Fault} (continues : call.Continues after) :
    Continue calls (calls.set number after) := by
  intro other inside
  obtain ⟨place, isOther⟩ := List.mem_iff_getElem?.mp inside
  by_cases same : number = place
  · subst same
    obtain rfl : call = other := Option.some.inj (isCall.symm.trans isOther)
    obtain ⟨within, _⟩ := List.getElem?_eq_some_iff.mp isCall
    exact ⟨after, List.mem_set within after, continues⟩
  · refine ⟨other, List.mem_iff_getElem?.mpr ⟨place, ?_⟩, rfl, id⟩
    rw [List.getElem?_set_ne same, isOther]

/-- A turn of a call changes the cache and that call. -/
theorem step_move {number : Nat} (isCall : shared.calls[number]? = some call)
    (move : CallMove Program Fault) :
    shared.step (.move number move)
      = ⟨(call.move shared.cache move).2,
          shared.calls.set number (call.move shared.cache move).1⟩ := by
  simp only [step, isCall]

/-- Moves of one call that nothing comes between. -/
theorem after_moves {number : Nat} (isCall : shared.calls[number]? = some call)
    (moves : List (CallMove Program Fault)) :
    shared.after (moves.map (.move number))
      = ⟨(call.moves shared.cache moves).2,
          shared.calls.set number (call.moves shared.cache moves).1⟩ := by
  induction moves generalizing shared call with
  | nil =>
    obtain ⟨within, isHere⟩ := List.getElem?_eq_some_iff.mp isCall
    rw [List.map_nil, after, List.foldl_nil, ProgramCall.moves, ← isHere, List.set_getElem_self]
  | cons move rest ih =>
    obtain ⟨within, _⟩ := List.getElem?_eq_some_iff.mp isCall
    have isNext : (shared.step (.move number move)).calls[number]?
        = some (call.move shared.cache move).1 := by
      rw [step_move isCall, List.getElem?_set_self within]
    have further := ih isNext
    rw [after] at further ⊢
    rw [List.map_cons, List.foldl_cons, further, step_move isCall, ProgramCall.moves,
      List.set_set]

/-- A call that is left alone answers and leaves what asking the cache does, and calls the compiler
as often. -/
theorem after_uninterrupted (shared : SharedCache Program Fault) (id : String) (now : Instant)
    (compile : Unit → Except Fault Program) :
    let compiled := shared.cache.getOrCompile id now compile
    let after := shared.after (uninterrupted shared.calls.length id now (compile ()))
    after.cache = compiled.cache ∧ ∃ call, after.calls = shared.calls ++ [call] ∧
      call.stage = .returned compiled.outcome ∧
      call.compiled = if compiled.calls = 0 then none else some (compile ()) := by
  intro compiled after
  obtain ⟨stage, cache, said⟩ := ProgramCall.moves_eq_getOrCompile shared.cache id now compile
  have isCall : (shared.step (.ask id now)).calls[shared.calls.length]?
      = some (.asked id now) := List.getElem?_concat_length
  have isAfter : after = _ :=
    after_moves isCall [.lookUp, .drop, .compile (compile ()), .insert]
  rw [isAfter]
  refine ⟨cache, _, ?_, stage, said⟩
  change (shared.calls ++ [_]).set shared.calls.length _ = _
  rw [List.set_append_right _ _ (Nat.le_refl _), Nat.sub_self]
  rfl

/-- What is sure between two turns: the cache shows a queue, its programs were compiled for their
identifiers, and every call is as its stage says. -/
structure IsSound (shared : SharedCache Program Fault) (maxEntries : Nat) : Prop where
  shows : shared.cache.ShowsNamed maxEntries
  kept : ∀ {id entry}, shared.cache.entries.find? id = some entry →
    HasCompiled shared.calls id entry.program
  calls : ∀ call ∈ shared.calls, call.IsSound shared.calls

/-- What a move comes to. -/
structure Moved (shared : SharedCache Program Fault) (maxEntries : Nat)
    (call : ProgramCall Program Fault)
    (next : ProgramCall Program Fault × ProgramCache Program) : Prop where
  continues : call.Continues next.1
  sound : next.1.IsSound shared.calls
  shows : next.2.ShowsNamed maxEntries
  kept : ∀ {id entry}, next.2.entries.find? id = some entry →
    shared.cache.entries.find? id = some entry ∨
    id = call.id ∧ call.compiled = some (.ok entry.program)

/-- A move that leaves the cache alone. -/
theorem IsSound.moved_call (sound : shared.IsSound maxEntries)
    {after : ProgramCall Program Fault} (continues : call.Continues after)
    (isSound : after.IsSound shared.calls) :
    shared.Moved maxEntries call (after, shared.cache) :=
  ⟨continues, isSound, sound.shows, fun found => .inl found⟩

/-- A look-up leaves the cache alone, and a program that it finds was compiled by some call. -/
theorem IsSound.moved_found (sound : shared.IsSound maxEntries) (isNamed : call.id ≠ "")
    (uncompiled : call.compiled = none) :
    shared.Moved maxEntries call
      (call.found (shared.cache.lookup call.id call.askedAt), shared.cache) := by
  unfold ProgramCache.lookup
  split
  · exact sound.moved_call ⟨rfl, id⟩ uncompiled
  · rename_i entry found
    split
    · exact sound.moved_call ⟨rfl, id⟩ (.inr ⟨entry.program, rfl, sound.kept found⟩)
    · exact sound.moved_call ⟨rfl, id⟩ ⟨isNamed, uncompiled⟩

/-- The compiler's answer leaves the cache alone; a program is still to be put in. -/
theorem IsSound.moved_told (sound : shared.IsSound maxEntries) (uncompiled : call.compiled = none)
    (outcome : Except Fault Program) :
    shared.Moved maxEntries call (call.told outcome, shared.cache) := by
  have continues : call.Continues (call.told outcome) := by
    refine ⟨rfl, fun said => ?_⟩
    rw [uncompiled] at said
    cases said
  refine sound.moved_call continues ?_
  unfold ProgramCall.told ProgramCall.IsSound
  cases outcome with
  | error fault => exact .inl rfl
  | ok program =>
    dsimp only
    by_cases unnamed : call.id.isEmpty = true
    · rw [if_pos unnamed]
      exact .inl rfl
    · rw [if_neg unnamed]
      exact ⟨by simpa using unnamed, rfl⟩

/-- Whatever a call does next, it stays sound, and so does the cache. -/
theorem IsSound.moved (sound : shared.IsSound maxEntries) (inside : call ∈ shared.calls)
    (move : CallMove Program Fault) :
    shared.Moved maxEntries call (call.move shared.cache move) := by
  have isSound := sound.calls call inside
  have idle : shared.Moved maxEntries call (call, shared.cache) :=
    sound.moved_call ⟨rfl, id⟩ isSound
  unfold ProgramCall.IsSound at isSound
  cases move with
  | lookUp =>
    cases stage : call.stage with
    | lookingUp =>
      rw [stage] at isSound
      simpa only [ProgramCall.move, stage] using sound.moved_found isSound.1 isSound.2
    | _ => simpa only [ProgramCall.move, stage] using idle
  | drop =>
    cases stage : call.stage with
    | dropping =>
      rw [stage] at isSound
      simp only [ProgramCall.move, stage]
      refine ⟨⟨rfl, id⟩, isSound.2, sound.shows.clear call.id, fun found => .inl ?_⟩
      exact (ProgramCache.isWithin_remove shared.cache call.id).entries found
    | _ => simpa only [ProgramCall.move, stage] using idle
  | compile outcome =>
    cases stage : call.stage with
    | compiling =>
      rw [stage] at isSound
      simpa only [ProgramCall.move, stage] using sound.moved_told isSound outcome
    | _ => simpa only [ProgramCall.move, stage] using idle
  | insert =>
    cases stage : call.stage with
    | inserting program =>
      rw [stage] at isSound
      simp only [ProgramCall.move, stage]
      refine ⟨⟨rfl, id⟩, .inl isSound.2, sound.shows.insert isSound.1 program call.askedAt,
        fun found => ?_⟩
      rcases ProgramCache.find?_insert found with ⟨rfl, rfl⟩ | old
      · exact .inr ⟨rfl, isSound.2⟩
      · exact .inl old
    | _ => simpa only [ProgramCall.move, stage] using idle

/-- Before the first call, a shared cache is sound. -/
theorem isSound_new (timeToLive : Duration) (maxEntries : Nat) :
    (new timeToLive maxEntries : SharedCache Program Fault).IsSound maxEntries where
  shows := ProgramCache.showsNamed_new timeToLive maxEntries
  kept found := by cases found
  calls := nofun

/-- A turn keeps a shared cache sound. -/
theorem IsSound.step (sound : shared.IsSound maxEntries) (turn : Turn Program Fault) :
    (shared.step turn).IsSound maxEntries := by
  cases turn with
  | ask id now =>
    have continued := continue_append shared.calls [.asked id now]
    refine ⟨sound.shows, fun found => (sound.kept found).mono continued, fun call inside => ?_⟩
    rcases List.mem_append.mp inside with old | new
    · exact isSound_mono (sound.calls call old) continued
    · rw [List.mem_singleton.mp new]
      by_cases unnamed : id = "" <;>
        simp [ProgramCall.asked, ProgramCall.IsSound, unnamed]
  | move number move =>
    cases isCall : shared.calls[number]? with
    | none => simpa only [SharedCache.step, isCall] using sound
    | some call =>
      rw [step_move isCall]
      have inside := List.mem_of_getElem? isCall
      have moved := sound.moved inside move
      have continued := continue_set isCall moved.continues
      refine ⟨moved.shows, fun found => ?_, fun other inside => ?_⟩
      · rcases moved.kept found with old | ⟨rfl, compiled⟩
        · exact (sound.kept old).mono continued
        · have said : HasCompiled shared.calls call.id _ := ⟨call, inside, rfl, compiled⟩
          exact said.mono continued
      · rcases List.mem_or_eq_of_mem_set inside with old | rfl
        · exact isSound_mono (sound.calls other old) continued
        · exact isSound_mono moved.sound continued
  | clear id =>
    refine ⟨sound.shows.clear id, fun found => sound.kept ?_, sound.calls⟩
    exact (ProgramCache.isWithin_remove shared.cache id).entries found

/-- Whatever turns are taken, a shared cache stays sound. -/
theorem IsSound.after (sound : shared.IsSound maxEntries) (turns : List (Turn Program Fault)) :
    (shared.after turns).IsSound maxEntries := by
  induction turns generalizing shared with
  | nil => exact sound
  | cons turn rest ih => exact ih (sound.step turn)

/-- Whatever turns the calls on a cache take, its table and its order name the same identifiers,
each once, none of them empty and no more than allowed; a program that is put in comes last and
costs at most one other entry; a call answers what the compiler said to it or answered to another
call for the same identifier; and one that is left alone does what `ProgramCache.getOrCompile`
does. -/
theorem turns_coherent (timeToLive : Duration) (maxEntries : Nat)
    (turns : List (Turn Program Fault)) :
    let shared := (new timeToLive maxEntries : SharedCache Program Fault).after turns
    shared.cache.IsCoherent maxEntries ∧
    (∀ number call program, shared.calls[number]? = some call → call.stage = .inserting program →
      shared.cache.ComesLast (shared.step (.move number .insert)).cache call.id
        ⟨program, call.askedAt⟩) ∧
    (∀ call ∈ shared.calls, ∀ outcome, call.stage = .returned outcome →
      call.Answers shared.calls outcome) ∧
    ∀ id now compile,
      let compiled := shared.cache.getOrCompile id now compile
      let alone := shared.after (uninterrupted shared.calls.length id now (compile ()))
      alone.cache = compiled.cache ∧ ∃ call, alone.calls = shared.calls ++ [call] ∧
        call.stage = .returned compiled.outcome ∧
        call.compiled = if compiled.calls = 0 then none else some (compile ()) := by
  intro shared
  have sound : shared.IsSound maxEntries := (isSound_new timeToLive maxEntries).after turns
  refine ⟨sound.shows.isCoherent, ?_, ?_, fun id now compile => ?_⟩
  · intro number call program isCall stage
    have comes := sound.shows.comesLast call.id program call.askedAt
    simpa only [step_move isCall, ProgramCall.move, stage] using comes
  · intro call inside outcome stage
    have isSound := sound.calls call inside
    rw [ProgramCall.IsSound, stage] at isSound
    exact isSound
  · exact after_uninterrupted shared id now compile

/-- Two calls that both found nothing both come to put a program in: the later one replaces the
earlier one, and a third call is answered what was compiled for another. -/
example :
    let shared := (new 60 1 : SharedCache String String).after [
      .ask "a" 0, .ask "a" 1, .move 0 .lookUp, .move 1 .lookUp, .move 0 (.compile (.ok "first")),
      .move 1 (.compile (.ok "second")), .move 1 .insert, .move 0 .insert, .ask "a" 2,
      .move 2 .lookUp]
    shared.cache.order = ["a"] ∧ shared.calls.map ProgramCall.stage
      = [.returned (.ok "first"), .returned (.ok "second"), .returned (.ok "first")] := by
  decide

end SharedCache

end ConfigDelivery.Cache
