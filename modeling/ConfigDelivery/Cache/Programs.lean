import ConfigDelivery.Basic.Table
import ConfigDelivery.Basic.Time
/-!
# Cache of compiled programs

One cache serves all workers of a script language. It keeps a table of entries
and, beside it, the order in which they came; an entry is fresh while its age is
at most the time to live, and the oldest ones go first when there are too many.
Its operations are the sections that run under one lock; `obtain` strings them
together around a compiler of which it knows nothing but how to call it, and
`getOrCompile` counts the calls. An empty identifier never touches the cache.
-/

namespace ConfigDelivery.Cache

/-- A compiled program and the time of the call that compiled it. -/
structure ProgramEntry (Program : Type) where
  program : Program
  insertedAt : Instant

/-- The compiled programs of a script language. -/
structure ProgramCache (Program : Type) where
  timeToLive : Duration
  maxEntries : Nat
  entries : Table (ProgramEntry Program) := {}
  order : List String := []

/-- What a look-up finds. -/
inductive ProgramLookup (Program : Type) where
  | fresh (program : Program)
  | expired
  | absent

/-- The outcome of asking for a program: the program or a compile error, how often the compiler
was called, and the cache afterwards. -/
structure Compiled (Program Fault : Type) where
  outcome : Except Fault Program
  calls : Nat
  cache : ProgramCache Program

/-- The compiler was called. -/
def Compiled.didCompile {Program Fault : Type} (compiled : Compiled Program Fault) : Bool :=
  0 < compiled.calls

namespace ProgramCache

variable {Program Fault : Type}

/-- How long a program is fresh, unless said otherwise. -/
def defaultTimeToLive : Duration := Duration.ofSeconds 300

/-- How many programs are kept, unless said otherwise. -/
def defaultMaxEntries : Nat := 100

/-- A cache without programs. It holds at least one, whatever the bound says. -/
def new (timeToLive : Duration) (maxEntries : Nat) : ProgramCache Program :=
  { timeToLive, maxEntries := max maxEntries 1 }

/-- Look a program up. A clock that went back counts as no time at all. -/
def lookup (cache : ProgramCache Program) (id : String) (now : Instant) : ProgramLookup Program :=
  match cache.entries.find? id with
  | none => .absent
  | some entry =>
    if now - entry.insertedAt ≤ cache.timeToLive then .fresh entry.program else .expired

/-- Drop an entry and its place in the order. -/
def remove (cache : ProgramCache Program) (id : String) : ProgramCache Program :=
  if cache.entries.contains id then
    { cache with entries := cache.entries.erase id, order := cache.order.erase id }
  else cache

/-- Drop an entry whatever its age, and say whether there was one. -/
def clear (cache : ProgramCache Program) (id : String) : Bool × ProgramCache Program :=
  (cache.entries.contains id, cache.remove id)

/-- Drop the oldest entries beyond the bound; `fuel` bounds how many. -/
def evict : Nat → ProgramCache Program → ProgramCache Program
  | 0, cache => cache
  | fuel + 1, cache =>
    if cache.maxEntries < cache.order.length then
      match cache.order with
      | [] => cache
      | oldest :: rest =>
        evict fuel { cache with entries := cache.entries.erase oldest, order := rest }
    else cache

/-- Put a program in as the newest entry, in place of an earlier one of the identifier, and drop
the oldest entries beyond the bound. -/
def insert (cache : ProgramCache Program) (id : String) (program : Program) (now : Instant) :
    ProgramCache Program :=
  let cache := cache.remove id
  evict (cache.order.length + 1)
    { cache with
      entries := cache.entries.insert id ⟨program, now⟩
      order := cache.order ++ [id] }

/-- The program of an identifier: the fresh one, or the compiler's. A compile error is answered
and never kept; an expired entry is dropped before the compiler is called. -/
def obtain {m : Type → Type} [Monad m] (cache : ProgramCache Program) (id : String)
    (now : Instant) (compile : m (Except Fault Program)) :
    m (Except Fault Program × ProgramCache Program) :=
  if id.isEmpty then do return (← compile, cache)
  else
    match cache.lookup id now with
    | .fresh program => return (.ok program, cache)
    | found => do
      -- An expired program is gone even if the compiler fails.
      let cache :=
        match found with
        | .expired => (cache.clear id).2
        | _ => cache
      match ← compile with
      | .ok program => return (.ok program, cache.insert id program now)
      | .error fault => return (.error fault, cache)

/-- A compiler whose calls are counted. -/
def counting (compile : Unit → Except Fault Program) : StateM Nat (Except Fault Program) := do
  modify (· + 1)
  return compile ()

/-- Ask for the program of an identifier, and count the calls of the compiler. -/
def getOrCompile (cache : ProgramCache Program) (id : String) (now : Instant)
    (compile : Unit → Except Fault Program) : Compiled Program Fault :=
  let ((outcome, after), calls) := (cache.obtain id now (counting compile)).run 0
  ⟨outcome, calls, after⟩

/-- There is an entry of an identifier, whatever its age. -/
def contains (cache : ProgramCache Program) (id : String) : Bool := cache.entries.contains id

/-- The number of entries. -/
def size (cache : ProgramCache Program) : Nat := cache.entries.size

end ProgramCache

end ConfigDelivery.Cache
