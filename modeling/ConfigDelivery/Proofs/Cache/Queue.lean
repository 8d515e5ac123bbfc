import ConfigDelivery.Proofs.Basic.Simulation
import ConfigDelivery.Proofs.Cache.Programs
import Mathlib.Data.List.Nodup
/-!
# A program cache is a bounded queue

`ProgramQueue` says what a cache of programs does in terms of one list, the newest program last: a
fresh program is answered where it stands, any other one gives way to what the compiler answers, and
the head leaves when there are too many. A cache that shows a queue keeps its table and its order in
step with the one list, so both answer every series of operations alike. Times are those of the
calls, in whatever order they come.
-/

namespace ConfigDelivery.Cache

variable {Program Fault : Type}

/-! ## Programs in a queue -/

/-- A program with its identifier and the time of the call that had it compiled. -/
structure QueuedProgram (Program : Type) where
  id : String
  program : Program
  insertedAt : Instant

/-- The age of a program; it has none on a clock that went back. -/
def QueuedProgram.age (item : QueuedProgram Program) (now : Instant) : Duration :=
  if now < item.insertedAt then 0 else now - item.insertedAt

/-- A program is as old as the time since it was put in. -/
theorem QueuedProgram.age_eq (item : QueuedProgram Program) (now : Instant) :
    item.age now = now - item.insertedAt := by
  unfold QueuedProgram.age
  split
  · rename_i back
    exact (Nat.sub_eq_zero_of_le (Nat.le_of_lt back)).symm
  · rfl

/-- The entry that a cache has for a program. -/
def QueuedProgram.entry (item : QueuedProgram Program) : ProgramEntry Program :=
  ⟨item.program, item.insertedAt⟩

/-- Programs in the order in which they came, the newest last. -/
structure ProgramQueue (Program : Type) where
  timeToLive : Duration
  maxEntries : Nat
  items : List (QueuedProgram Program) := []

/-- What can be asked of kept programs. -/
inductive ProgramOperation (Program Fault : Type) where
  | getOrCompile (id : String) (now : Instant) (compile : Unit → Except Fault Program)
  | clear (id : String)
  | contains (id : String)
  | size

/-- What is answered: a program or a compile error, and how often the compiler was called; whether
there was a program to drop; whether there is one; how many there are. -/
inductive ProgramAnswer (Program Fault : Type) where
  | obtained (outcome : Except Fault Program) (calls : Nat)
  | cleared (existed : Bool)
  | contained (found : Bool)
  | counted (size : Nat)
  deriving DecidableEq

namespace ProgramQueue

/-- The program of an identifier. -/
def find? (queue : ProgramQueue Program) (id : String) : Option (QueuedProgram Program) :=
  queue.items.find? fun item => item.id = id

/-- Drop the program of an identifier. -/
def drop (queue : ProgramQueue Program) (id : String) : ProgramQueue Program :=
  { queue with items := queue.items.filter fun item => item.id ≠ id }

/-- To drop a program twice is to drop it once. -/
theorem drop_drop (queue : ProgramQueue Program) (id : String) :
    (queue.drop id).drop id = queue.drop id := by
  simp [drop, List.filter_filter]

/-- Append a program, and drop the head when there are more programs than allowed; one is always
allowed. -/
def append (queue : ProgramQueue Program) (item : QueuedProgram Program) : ProgramQueue Program :=
  let items := queue.items ++ [item]
  { queue with items := if max queue.maxEntries 1 < items.length then items.tail else items }

/-- The program of an identifier that is not older than the time to live. -/
def fresh? (queue : ProgramQueue Program) (id : String) (now : Instant) :
    Option (QueuedProgram Program) :=
  (queue.find? id).filter fun item => item.age now ≤ queue.timeToLive

/-- Ask for the program of an identifier. The empty one has the compiler answer and changes
nothing. A fresh program is answered without a call of the compiler and stays where it is; any other
one leaves, the compiler is called once, and if it answers a program, that comes last. -/
def getOrCompile (queue : ProgramQueue Program) (id : String) (now : Instant)
    (compile : Unit → Except Fault Program) :
    ProgramAnswer Program Fault × ProgramQueue Program :=
  if id = "" then (.obtained (compile ()) 1, queue)
  else
    match queue.fresh? id now with
    | some item => (.obtained (.ok item.program) 0, queue)
    | none =>
      match compile () with
      | .error fault => (.obtained (.error fault) 1, queue.drop id)
      | .ok program => (.obtained (.ok program) 1, (queue.drop id).append ⟨id, program, now⟩)

/-- The answers of a queue. -/
def answer : Machine (ProgramQueue Program) (ProgramOperation Program Fault)
    (ProgramAnswer Program Fault)
  | queue, .getOrCompile id now compile => queue.getOrCompile id now compile
  | queue, .clear id => (.cleared (queue.find? id).isSome, queue.drop id)
  | queue, .contains id => (.contained (queue.find? id).isSome, queue)
  | queue, .size => (.counted queue.items.length, queue)

end ProgramQueue

/-- The answers of a cache. -/
def ProgramCache.answer : Machine (ProgramCache Program) (ProgramOperation Program Fault)
    (ProgramAnswer Program Fault)
  | cache, .getOrCompile id now compile =>
    let compiled := cache.getOrCompile id now compile
    (.obtained compiled.outcome compiled.calls, compiled.cache)
  | cache, .clear id =>
    let (existed, after) := cache.clear id
    (.cleared existed, after)
  | cache, .contains id => (.contained (cache.contains id), cache)
  | cache, .size => (.counted cache.size, cache)

/-! ## Caches that show a queue -/

namespace ProgramCache

/-- The order of a cache names every key of its table once, and nothing else. -/
structure IsInStep (cache : ProgramCache Program) : Prop where
  distinct : cache.order.Nodup
  keys : cache.entries.keys.Perm cache.order

/-- A cache holds some programs, the newest last. -/
structure Lists (cache : ProgramCache Program) (items : List (QueuedProgram Program)) : Prop
    extends cache.IsInStep where
  order : cache.order = items.map QueuedProgram.id
  find? : ∀ id, cache.entries.find? id
    = (items.find? fun item => item.id = id).map QueuedProgram.entry

/-- A cache shows a queue: it holds the same programs under the same bounds, and no more of them
than it may. -/
structure Shows (cache : ProgramCache Program) (queue : ProgramQueue Program) : Prop where
  lists : cache.Lists queue.items
  timeToLive : cache.timeToLive = queue.timeToLive
  maxEntries : cache.maxEntries = max queue.maxEntries 1
  bounded : cache.order.length ≤ cache.maxEntries

variable {cache : ProgramCache Program} {items : List (QueuedProgram Program)}
  {queue : ProgramQueue Program}

/-- A new cache shows a queue with nothing in it. -/
theorem shows_new (timeToLive : Duration) (maxEntries : Nat) :
    (new timeToLive maxEntries : ProgramCache Program).Shows ⟨timeToLive, maxEntries, []⟩ where
  lists := {
    distinct := List.nodup_nil
    keys := .refl _
    order := rfl
    find? := fun _ => rfl }
  timeToLive := rfl
  maxEntries := rfl
  bounded := Nat.zero_le _

/-- The programs that are there are those in the order. -/
theorem IsInStep.contains_iff (inStep : cache.IsInStep) (id : String) :
    cache.entries.contains id = true ↔ id ∈ cache.order := by
  rw [Table.contains_iff_mem_keys, inStep.keys.mem_iff]

/-- A program is in the cache if it is in the queue. -/
theorem Lists.contains_eq (lists : cache.Lists items) (id : String) :
    cache.entries.contains id = (items.find? fun item => item.id = id).isSome := by
  rw [Table.contains, lists.find?, Option.isSome_map]

/-- The cache has as many programs as the queue. -/
theorem Lists.size_eq (lists : cache.Lists items) : cache.size = items.length := by
  rw [size, Table.size_eq_length_keys, lists.keys.length_eq, lists.order, List.length_map]

/-! ### Dropping a program -/

/-- Without the programs of one identifier, the others are found as before. -/
theorem find?_filter_ne (items : List (QueuedProgram Program)) (id other : String) :
    (items.filter fun item => item.id ≠ id).find? (fun item => item.id = other)
      = if id = other then none else items.find? fun item => item.id = other := by
  rw [List.find?_filter]
  by_cases same : id = other
  · subst same
    simp
  · rw [if_neg same]
    congr 1
    funext item
    by_cases found : item.id = other <;> simp [found, Ne.symm same]

/-- To remove an identifier takes its program out of the queue. -/
theorem Lists.remove (lists : cache.Lists items) (id : String) :
    (cache.remove id).Lists (items.filter fun item => item.id ≠ id) := by
  unfold ProgramCache.remove
  by_cases present : cache.entries.contains id = true
  · rw [if_pos present]
    have order : cache.order.erase id = cache.order.filter fun other => other ≠ id := by
      rw [lists.distinct.erase_eq_filter]
      exact List.filter_congr fun other _ => by simp [bne, beq_eq_decide]
    refine ⟨⟨lists.distinct.erase id, ?_⟩, ?_, fun other => ?_⟩
    · dsimp only
      rw [Table.keys_erase, order]
      exact lists.keys.filter _
    · dsimp only
      rw [order, lists.order, List.filter_map]
      rfl
    · rw [Table.find?_erase, find?_filter_ne, lists.find?]
      split <;> rfl
  · rw [if_neg present]
    have absent : ∀ item ∈ items, item.id ≠ id := by
      intro item inside same
      refine present ((lists.contains_iff id).mpr ?_)
      rw [lists.order]
      exact List.mem_map.mpr ⟨item, inside, same⟩
    rw [List.filter_eq_self.mpr fun item inside => by simpa using absent item inside]
    exact lists

/-- To remove an identifier does not lengthen the order. -/
theorem length_order_remove (cache : ProgramCache Program) (id : String) :
    (cache.remove id).order.length ≤ cache.order.length := by
  unfold ProgramCache.remove
  split
  · exact List.length_erase_le
  · exact Nat.le_refl _

theorem remove_maxEntries (cache : ProgramCache Program) (id : String) :
    (cache.remove id).maxEntries = cache.maxEntries := by
  unfold ProgramCache.remove
  split <;> rfl

/-- To remove an identifier is to drop it from the queue. -/
theorem Shows.remove (shows : cache.Shows queue) (id : String) :
    (cache.remove id).Shows (queue.drop id) where
  lists := shows.lists.remove id
  timeToLive := (isWithin_remove cache id).timeToLive.trans shows.timeToLive
  maxEntries := (cache.remove_maxEntries id).trans shows.maxEntries
  bounded := by
    rw [remove_maxEntries]
    exact Nat.le_trans (cache.length_order_remove id) shows.bounded

/-! ### Putting a program in -/

/-- A program whose identifier is not there is listed last. -/
theorem Lists.add (lists : cache.Lists items) (item : QueuedProgram Program)
    (absent : ∀ other ∈ items, other.id ≠ item.id) :
    { cache with
      entries := cache.entries.insert item.id item.entry
      order := cache.order ++ [item.id] }.Lists (items ++ [item]) := by
  have notMem : item.id ∉ cache.order := by
    rw [lists.order]
    intro inside
    obtain ⟨other, inside, same⟩ := List.mem_map.mp inside
    exact absent other inside same
  refine ⟨⟨?_, ?_⟩, ?_, fun id => ?_⟩
  · exact List.nodup_append.mpr ⟨lists.distinct, List.nodup_singleton _, by
      rintro id inside last isLast rfl
      exact notMem (List.mem_singleton.mp isLast ▸ inside)⟩
  · have fresh : item.id ∉ cache.entries.keys := fun inside =>
      notMem (lists.keys.mem_iff.mp inside)
    dsimp only
    rw [Table.keys_insert_of_notMem _ fresh]
    exact lists.keys.append_right _
  · dsimp only
    rw [lists.order, List.map_append, List.map_singleton]
  · dsimp only
    rw [Table.find?_insert, lists.find?, List.find?_append, List.find?_singleton]
    by_cases same : item.id = id
    · subst same
      have missing : (items.find? fun other => other.id = item.id) = none := by
        simpa using absent
      simp [missing]
    · simp [same]

/-- Without the oldest program, the others are listed. -/
theorem Lists.evictOldest {oldest : QueuedProgram Program}
    (lists : cache.Lists (oldest :: items)) :
    { cache with
      entries := cache.entries.erase oldest.id
      order := items.map QueuedProgram.id }.Lists items := by
  have order : cache.order = oldest.id :: items.map QueuedProgram.id := lists.order
  have distinct : (oldest.id :: items.map QueuedProgram.id).Nodup := order ▸ lists.distinct
  obtain ⟨notMem, distinct⟩ := List.nodup_cons.mp distinct
  refine ⟨⟨distinct, ?_⟩, rfl, fun id => ?_⟩
  · have others : ((oldest.id :: items.map QueuedProgram.id).filter fun id => id ≠ oldest.id)
        = items.map QueuedProgram.id := by
      rw [List.filter_cons_of_neg (by simp), List.filter_eq_self]
      intro id inside
      simpa using fun same : id = oldest.id => notMem (same ▸ inside)
    dsimp only
    rw [Table.keys_erase, ← others, ← order]
    exact lists.keys.filter _
  · dsimp only
    rw [Table.find?_erase, lists.find?, List.find?_cons]
    by_cases same : oldest.id = id
    · subst same
      have missing : (items.find? fun item => item.id = oldest.id) = none := by
        simpa using notMem
      simp [missing]
    · simp [same]

/-- Within the bound nothing is evicted. -/
theorem evict_of_le {fuel : Nat} (bounded : cache.order.length ≤ cache.maxEntries) :
    evict fuel cache = cache := by
  cases fuel with
  | zero => rfl
  | succ fuel => rw [evict, if_neg (Nat.not_lt.mpr bounded)]

/-- One program too many costs the oldest one, and no other. -/
theorem evict_of_lt {fuel : Nat} {oldest : String} {rest : List String}
    (order : cache.order = oldest :: rest) (full : rest.length = cache.maxEntries) :
    evict (fuel + 1) cache
      = { cache with entries := cache.entries.erase oldest, order := rest } := by
  have crowded : cache.maxEntries < cache.order.length := by
    rw [order, List.length_cons, full]
    exact Nat.lt_succ_self _
  rw [evict, if_pos crowded, order]
  exact evict_of_le (Nat.le_of_eq full)

/-- Putting a program in appends it to the queue without its identifier. -/
theorem Shows.insert (shows : cache.Shows queue) (item : QueuedProgram Program) :
    (cache.insert item.id item.program item.insertedAt).Shows
      ((queue.drop item.id).append item) := by
  have removed := shows.remove item.id
  have absent : ∀ other ∈ (queue.drop item.id).items, other.id ≠ item.id := by
    intro other inside
    simpa using (List.mem_filter.mp inside).2
  unfold ProgramCache.insert
  dsimp only
  generalize cache.remove item.id = cache at removed ⊢
  generalize queue.drop item.id = queue at removed absent ⊢
  have added := removed.lists.add item absent
  have length : (queue.items ++ [item]).length = cache.order.length + 1 := by
    rw [removed.lists.order, List.length_append, List.length_map]
    rfl
  have bounded := removed.bounded
  rw [ProgramQueue.append, ← removed.maxEntries, length]
  by_cases crowded : cache.maxEntries < cache.order.length + 1
  · have full : cache.order.length = cache.maxEntries := by omega
    rw [if_pos crowded]
    cases listed : queue.items ++ [item] with
    | nil =>
      rw [listed] at length
      cases length
    | cons oldest rest =>
      rw [listed] at length
      rw [listed, QueuedProgram.entry] at added
      have restLength : (rest.map QueuedProgram.id).length = cache.maxEntries := by
        rw [List.length_cons] at length
        rw [List.length_map]
        omega
      rw [evict_of_lt added.order restLength]
      exact ⟨added.evictOldest, removed.timeToLive, removed.maxEntries, Nat.le_of_eq restLength⟩
  · have within : (cache.order ++ [item.id]).length ≤ cache.maxEntries := by
      rw [List.length_append, List.length_singleton]
      omega
    rw [if_neg crowded, evict_of_le within]
    exact ⟨added, removed.timeToLive, removed.maxEntries, within⟩

/-! ### Answers -/

/-- A fresh program of the queue is found. -/
theorem Shows.lookup_of_fresh (shows : cache.Shows queue) {id : String} {now : Instant}
    {item : QueuedProgram Program} (fresh : queue.fresh? id now = some item) :
    cache.lookup id now = .fresh item.program := by
  obtain ⟨found, young⟩ := Option.filter_eq_some_iff.mp fresh
  rw [QueuedProgram.age_eq, decide_eq_true_eq, ← shows.timeToLive] at young
  have entry : cache.entries.find? id = some item.entry := by
    rw [shows.lists.find?, ← ProgramQueue.find?, found]
    rfl
  rw [lookup, entry]
  exact if_pos young

/-- Without a fresh program in the queue, one that is there has expired. -/
theorem Shows.lookup_of_stale (shows : cache.Shows queue) {id : String} {now : Instant}
    (stale : queue.fresh? id now = none) :
    cache.lookup id now = .expired ∨
    cache.lookup id now = .absent ∧ cache.remove id = cache := by
  have entry : cache.entries.find? id = (queue.find? id).map QueuedProgram.entry :=
    shows.lists.find? id
  rw [lookup, ProgramCache.remove, Table.contains, entry]
  cases found : queue.find? id with
  | none => exact .inr ⟨rfl, rfl⟩
  | some item =>
    rw [ProgramQueue.fresh?, found, Option.filter_some_eq_none, decide_eq_true_eq,
      QueuedProgram.age_eq, ← shows.timeToLive] at stale
    exact .inl (if_neg stale)

/-- A program that is not fresh is dropped before the compiler is asked. -/
theorem getOrCompile_of_stale {id : String} (isNamed : id ≠ "") {now : Instant}
    (compile : Unit → Except Fault Program)
    (stale : cache.lookup id now = .expired ∨
      cache.lookup id now = .absent ∧ cache.remove id = cache) :
    cache.getOrCompile id now compile = (cache.remove id).compiled id now (compile ()) := by
  rw [getOrCompile_named isNamed]
  rcases stale with expired | ⟨absent, same⟩
  · rw [expired]
  · rw [absent, same]

/-- Asking a cache for a program comes to what asking the queue comes to. -/
theorem Shows.getOrCompile (shows : cache.Shows queue) (id : String) (now : Instant)
    (compile : Unit → Except Fault Program) :
    let compiled := cache.getOrCompile id now compile
    let (answer, after) := queue.getOrCompile id now compile
    .obtained compiled.outcome compiled.calls = answer ∧ compiled.cache.Shows after := by
  by_cases unnamed : id = ""
  · subst unnamed
    exact ⟨rfl, shows⟩
  · rw [ProgramQueue.getOrCompile, if_neg unnamed]
    cases fresh : queue.fresh? id now with
    | some item =>
      rw [getOrCompile_of_fresh unnamed (shows.lookup_of_fresh fresh)]
      exact ⟨rfl, shows⟩
    | none =>
      rw [getOrCompile_of_stale unnamed compile (shows.lookup_of_stale fresh)]
      cases compile () with
      | error fault => exact ⟨rfl, shows.remove id⟩
      | ok program =>
        refine ⟨rfl, ?_⟩
        have inserted := (shows.remove id).insert ⟨id, program, now⟩
        rw [ProgramQueue.drop_drop] at inserted
        exact inserted

/-- A cache that shows a queue answers as the queue does, and shows it afterwards. -/
theorem Shows.answer (shows : cache.Shows queue) (operation : ProgramOperation Program Fault) :
    (cache.answer operation).1 = (queue.answer operation).1 ∧
    (cache.answer operation).2.Shows (queue.answer operation).2 := by
  cases operation with
  | getOrCompile id now compile => exact shows.getOrCompile id now compile
  | clear id =>
    exact ⟨congrArg ProgramAnswer.cleared (shows.lists.contains_eq id), shows.remove id⟩
  | contains id => exact ⟨congrArg ProgramAnswer.contained (shows.lists.contains_eq id), shows⟩
  | size => exact ⟨congrArg ProgramAnswer.counted shows.lists.size_eq, shows⟩

/-- A cache answers every series of operations as a queue of programs does that starts empty under
the same bounds. -/
theorem answers_eq_queue (timeToLive : Duration) (maxEntries : Nat)
    (operations : List (ProgramOperation Program Fault)) :
    Machine.answers answer (new timeToLive maxEntries : ProgramCache Program) operations
      = Machine.answers ProgramQueue.answer ⟨timeToLive, maxEntries, []⟩ operations :=
  Machine.answers_eq_of_simulation (fun shows _ => shows.answer _)
    (shows_new timeToLive maxEntries)
    (Machine.allAdmitted_of_forall (fun _ _ => rfl) _ operations)

/-- A bound of nothing keeps the newest program; a program that does not compile drives none out. -/
example :
    let compile (outcome : Except String String) (_ : Unit) := outcome
    Machine.answers answer (new 60 0)
      [.getOrCompile "a" 0 (compile (.ok "first")), .getOrCompile "b" 1 (compile (.error "fault")),
        .getOrCompile "a" 60 (compile (.ok "second")), .getOrCompile "b" 61 (compile (.ok "third")),
        .contains "a", .size]
      = [.obtained (.ok "first") 1, .obtained (.error "fault") 1,
        .obtained (.ok "first") 0, .obtained (.ok "third") 1,
        .contained false, .counted 1] := by
  decide

end ProgramCache

end ConfigDelivery.Cache
