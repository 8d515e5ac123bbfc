import ConfigDelivery.Delivery.Serve
import Mathlib.Data.Option.Basic
/-!
# Actions, and the records that they load

What an action answers in a world, step by step, and what a look-up of a record does: it answers a
kept record or what the store holds, and of the world it changes the kept texts alone.
-/

namespace ConfigDelivery.Delivery

variable {Stored Kept Engines Result Next Record : Type}

namespace Action

/-- What an action answers in a world, and the world afterwards. -/
def perform (action : Action Stored Kept Engines Result) (world : World Stored Kept Engines) :
    Except DeliveryError Result × World Stored Kept Engines :=
  action.run.run world

variable (world : World Stored Kept Engines)

@[simp] theorem perform_pure (result : Result) :
    (pure result : Action Stored Kept Engines Result).perform world = (.ok result, world) := rfl

@[simp] theorem perform_throw (refusal : DeliveryError) :
    (throw refusal : Action Stored Kept Engines Result).perform world
      = (.error refusal, world) := rfl

/-- A second action sees the world that the first one leaves, unless that refuses. -/
theorem perform_bind (action : Action Stored Kept Engines Result)
    (next : Result → Action Stored Kept Engines Next) :
    (action >>= next).perform world =
      match action.perform world with
      | (.ok result, after) => (next result).perform after
      | (.error refusal, after) => (.error refusal, after) := by
  have unfolded : (action >>= next).perform world =
      match action.perform world with
      | (outcome, after) => (ExceptT.bindCont next outcome).run after := rfl
  rw [unfolded]
  rcases action.perform world with ⟨_ | _, after⟩ <;> rfl

/-- A look-up comes before what is made of it. -/
@[simp] theorem perform_lift_bind (loaded : StateM (World Stored Kept Engines) Result)
    (next : Result → Action Stored Kept Engines Next) :
    ((liftM loaded : Action Stored Kept Engines Result) >>= next).perform world
      = (next (loaded world).1).perform (loaded world).2 := rfl

/-- To look at the world changes nothing. -/
@[simp] theorem perform_get_bind
    (next : World Stored Kept Engines → Action Stored Kept Engines Next) :
    ((get : Action Stored Kept Engines (World Stored Kept Engines)) >>= next).perform world
      = (next world).perform world := rfl

@[simp] theorem perform_set_bind (after : World Stored Kept Engines)
    (next : PUnit → Action Stored Kept Engines Next) :
    ((set after : Action Stored Kept Engines PUnit) >>= next).perform world
      = (next ⟨⟩).perform after := rfl

/-- A decision changes nothing. -/
@[simp] theorem perform_conclude (decision : Except DeliveryError Result) :
    (conclude decision : Action Stored Kept Engines Result).perform world = (decision, world) := rfl

end Action

/-- The record that a text from the cache is the text of. -/
def readKept (decoder : Json.Decoder Record) : Except Failure (Option String) → Option Record
  | .ok (some text) => decoder.readText text
  | _ => none

/-- A record is kept if its text is there and can be read. -/
theorem keptRecord_eq (records : Cache.RecordCacheOps Kept) (key : String)
    (decoder : Json.Decoder Record) (world : World Stored Kept Engines) :
    keptRecord records key decoder world =
      let (found, kept) := records.get world.kept world.now key
      (readKept decoder found, { world with kept }) := by
  rcases looked : records.get world.kept world.now key with ⟨failure | _ | text, kept⟩ <;>
    simp only [keptRecord, bind, get, getThe, MonadStateOf.get, StateT.bind, StateT.get, pure,
      looked] <;>
    rfl

namespace Components

variable (components : Components Stored Kept Engines)

/-- A read changes nothing, and its failure is internal and without its text. -/
theorem read_perform (fetch : Store.RecordStoreOps Stored → Stored → Except Failure Result)
    (world : World Stored Kept Engines) :
    (components.read fetch).perform world
      = ((fetch components.store world.stored).mapError fun failure => .internal failure.plain,
        world) := by
  rw [read, Action.perform_get_bind]
  cases fetch components.store world.stored <;> rfl

/-- What is read is used, and a failure ends the action. -/
theorem read_bind_world
    (fetch : Store.RecordStoreOps Stored → Stored → Except Failure Result)
    (next : Result → Action Stored Kept Engines Next) (world : World Stored Kept Engines) :
    (components.read fetch >>= next).perform world =
      match fetch components.store world.stored with
      | .ok result => (next result).perform world
      | .error failure => (.error (.internal failure.plain), world) := by
  rw [Action.perform_bind, read_perform]
  cases fetch components.store world.stored <;> rfl

/-- The texts that are kept after a record was read from the store. -/
def refreshed (kind : RecordKind Stored Record) (id : String)
    (world : World Stored Kept Engines) : Kept :=
  match components.records, kind.fetch world.stored id with
  | some records, .ok (some record) =>
    (records.set world.kept world.now (kind.key id) (kind.document record).render
      components.settings.recordTimeToLive).2
  | _, _ => world.kept

/-- A fetched record is the stored one, and is kept if there is one. -/
theorem fetchRecord_eq (kind : RecordKind Stored Record) (id : String)
    (world : World Stored Kept Engines) :
    components.fetchRecord kind id world
      = (kind.fetch world.stored id,
        { world with kept := components.refreshed kind id world }) := by
  simp only [fetchRecord, refreshed, bind, get, getThe, MonadStateOf.get, StateT.bind, StateT.get,
    pure]
  generalize kind.fetch world.stored id = fetched
  generalize components.records = records
  rcases records with _ | records <;> rcases fetched with _ | _ | record <;> rfl

/-- Without a cache, or when cached records are not accepted, the store is read. -/
theorem loadRecord_of_uncached (kind : RecordKind Stored Record) {cached : Bool} (id : String)
    (world : World Stored Kept Engines) (uncached : cached = false ∨ components.records = none) :
    components.loadRecord kind cached id world = components.fetchRecord kind id world := by
  unfold loadRecord
  rcases uncached with rfl | cacheless
  · generalize components.records = records
    cases records <;> rfl
  · rw [cacheless]
    cases cached <;> rfl

/-- With a cache, a kept text that can be read is the answer, and else the store is read. -/
theorem loadRecord_of_cached (kind : RecordKind Stored Record) (id : String)
    (world : World Stored Kept Engines) {records : Cache.RecordCacheOps Kept}
    (cached : components.records = some records) :
    components.loadRecord kind true id world =
      let (found, kept) := records.get world.kept world.now (kind.key id)
      match readKept kind.decoder found with
      | some record => (.ok (some record), { world with kept })
      | none => components.fetchRecord kind id { world with kept } := by
  have unfolded : components.loadRecord kind true id world =
      (match keptRecord records (kind.key id) kind.decoder world with
        | (some record, after) => (.ok (some record), after)
        | (none, after) => components.fetchRecord kind id after) := by
    unfold loadRecord
    rw [cached]
    simp only [bind, StateT.bind]
    rcases keptRecord records (kind.key id) kind.decoder world with ⟨_ | record, after⟩ <;> rfl
  rw [unfolded, keptRecord_eq]
  dsimp only
  cases readKept kind.decoder (records.get world.kept world.now (kind.key id)).1 <;> rfl

/-- With a cache, a kept record that can be read is taken, and everything else is fetched. -/
theorem loadRecord_of_looked (kind : RecordKind Stored Record) (id : String)
    (world : World Stored Kept Engines) {records : Cache.RecordCacheOps Kept}
    (caching : components.records = some records) {answer : Except Failure (Option String)}
    {after : Kept} (looked : records.get world.kept world.now (kind.key id) = (answer, after)) :
    components.loadRecord kind true id world =
      match readKept kind.decoder answer with
      | some record => (.ok (some record), { world with kept := after })
      | none => components.fetchRecord kind id { world with kept := after } := by
  have loaded := components.loadRecord_of_cached kind id world caching
  rw [looked] at loaded
  exact loaded

/-- What a look-up finds, and the texts that are kept after it: a kept text that can be read, or
what the store holds, of which the text is kept then. -/
inductive Loaded (kind : RecordKind Stored Record) (id : String)
    (world : World Stored Kept Engines) : Except Failure (Option Record) → Kept → Prop where
  | kept {records text record after}
      (caching : components.records = some records)
      (answered : records.get world.kept world.now (kind.key id) = (.ok (some text), after))
      (read : kind.decoder.readText text = some record) :
      Loaded kind id world (.ok (some record)) after
  | fetched {seen}
      (looked : seen = world.kept ∨ ∃ records, components.records = some records ∧
        seen = (records.get world.kept world.now (kind.key id)).2) :
      Loaded kind id world (kind.fetch world.stored id)
        (components.refreshed kind id { world with kept := seen })

/-- A record is loaded from the cache or from the store, and nothing but the cache changes. -/
theorem loadRecord_loaded (kind : RecordKind Stored Record) (cached : Bool) (id : String)
    (world : World Stored Kept Engines) :
    ∃ found after, components.Loaded kind id world found after ∧
      components.loadRecord kind cached id world = (found, { world with kept := after }) := by
  by_cases uncached : cached = false ∨ components.records = none
  · rw [components.loadRecord_of_uncached kind id world uncached, fetchRecord_eq]
    exact ⟨_, _, .fetched (.inl rfl), rfl⟩
  · obtain ⟨accepts, caching⟩ := not_or.mp uncached
    obtain rfl : cached = true := by simpa using accepts
    obtain ⟨records, caching⟩ := Option.ne_none_iff_exists'.mp caching
    rw [components.loadRecord_of_cached kind id world caching]
    rcases looked : records.get world.kept world.now (kind.key id) with ⟨answer, after⟩
    have seen : after = (records.get world.kept world.now (kind.key id)).2 := by rw [looked]
    dsimp only
    cases read : readKept kind.decoder answer with
    | none =>
      dsimp only
      rw [fetchRecord_eq]
      exact ⟨_, _, .fetched (.inr ⟨records, caching, seen⟩), rfl⟩
    | some record =>
      rcases answer with failure | _ | text
      · cases read
      · cases read
      · exact ⟨_, _, .kept caching looked read, rfl⟩

/-- A record that is read from the store is kept as its text, if there is a cache. -/
theorem refreshed_eq (kind : RecordKind Stored Record) (id : String)
    (world : World Stored Kept Engines) :
    components.refreshed kind id world = world.kept ∨
    ∃ records record, components.records = some records ∧
      kind.fetch world.stored id = .ok (some record) ∧
      components.refreshed kind id world
        = (records.set world.kept world.now (kind.key id) (kind.document record).render
          components.settings.recordTimeToLive).2 := by
  unfold refreshed
  split
  · rename_i records record caching fetched
    exact .inr ⟨records, record, caching, fetched, rfl⟩
  · exact .inl rfl

end Components

end ConfigDelivery.Delivery
