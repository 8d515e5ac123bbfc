import ConfigDelivery.Proofs.Delivery.Keeping
import ConfigDelivery.Proofs.Store.Laws
/-!
# Broken code versions stay out

A code version that a report has broken is found broken by every look-up from then on: in the store,
and in every kept text, for its own was dropped by the report and only texts of stored records are
kept. That lasts until the code version is written again, so no request is served with it.
-/

namespace ConfigDelivery.Delivery

open ConfigDelivery.Cache (RecordCacheOps codeKey)

variable {Stored Kept Engines : Type}

/-- A code version stands under its own identifier, and is broken if that is one of a broken
one. -/
def IsSound (Broken : String → Prop) (id : String) (code : Code) : Prop :=
  code.codeId = id ∧ (Broken id → code.isBroken = true)

/-- A code version that is found where it is broken is marked as broken. -/
theorem IsSound.isBroken {Broken : String → Prop} {id : String} {code : Code}
    (sound : IsSound Broken id code) (broken : Broken code.codeId) : code.isBroken = true := by
  obtain ⟨rfl, isBroken⟩ := sound
  exact isBroken broken

/-- An event that does not write a broken code version. -/
def Event.Spares (Broken : String → Prop) : Event → Prop
  | .putCode code => ¬ Broken code.codeId
  | _ => True

namespace Components

variable (components : Components Stored Kept Engines)

/-- The code versions of the store and of the kept texts are sound. -/
structure KeepsBroken (Valid : Stored → Prop) (Holds : Kept → String → String → Prop)
    (Broken : String → Prop) (world : World Stored Kept Engines) : Prop where
  valid : Valid world.stored
  stored : ∀ {id code}, components.store.getCode world.stored id = .ok (some code) →
    IsSound Broken id code
  kept : KeepsOnly Holds (fun _ _ => True) (IsSound Broken) world.kept

variable {components} {Valid : Stored → Prop} {Holds : Kept → String → String → Prop}
  {Broken : String → Prop} {world : World Stored Kept Engines}

/-- A code version that was broken is found broken, in the cache and in the store. -/
theorem KeepsBroken.finds (keeps : components.KeepsBroken Valid Holds Broken world)
    (faithful : components.IsFaithful Holds) (cached : Bool) :
    components.Finds cached world (fun _ => KeepsOnly Holds (fun _ _ => True) (IsSound Broken))
      (fun _ _ => True)
      (fun id found => ∀ code, found = .ok (some code) → IsSound Broken id code) := by
  have finds : components.Finds cached world
      (fun _ => KeepsOnly Holds (fun _ _ => True) (IsSound Broken)) _ _ :=
    faithful.finds cached (fun _ => trivial) keeps.stored
  refine finds.weaken (fun _ => trivial) fun isFound code same => ?_
  rcases isFound with fromStore | ⟨record, kept, sound⟩
  · exact keeps.stored (fromStore ▸ same)
  · cases kept.symm.trans same
    exact sound

/-- A request is not answered with the result of a broken code version. -/
theorem KeepsBroken.serve (keeps : components.KeepsBroken Valid Holds Broken world)
    (faithful : components.IsFaithful Holds) (configId : String) (request : ConfigRequest) :
    let (answer, after) := (components.serve configId request).perform world
    components.KeepsBroken Valid Holds Broken after ∧
    ∀ response, answer = .ok response → ¬ Broken response.codeId := by
  obtain ⟨findings, kept, _, codes, only, served⟩ :=
    (keeps.finds faithful request.cached).serve_eq keeps.kept configId rfl
  rw [served]
  cases decided : findings.decision configId request with
  | error refusal =>
    refine ⟨⟨keeps.valid, keeps.stored, only⟩, ?_⟩
    rintro response ⟨⟩
  | ok script =>
    refine ⟨⟨keeps.valid, keeps.stored, only⟩, ?_⟩
    intro response answered broken
    obtain ⟨active, works, found⟩ := Findings.decision_eq_ok decided
    obtain ⟨gray, released⟩ := codes script.config active
    rw [ServedScript.codeId_of_answer answered] at broken
    have isBroken : script.code.isBroken = true := by
      rcases found with found | found
      · exact (gray script.code found).isBroken broken
      · exact (released script.code found).isBroken broken
    exact Bool.false_ne_true (works.symm.trans isBroken)

/-- One code version is amended in the store and its kept text is dropped: then the amended one
alone decides whether its identifier may be one of a broken code version. -/
theorem KeepsBroken.amended (keeps : components.KeepsBroken Valid Holds Broken world)
    (faithful : components.IsFaithful Holds) {codeId : String} {updated : Code} {after : Stored}
    (valid : Valid after)
    (read : ∀ id, components.store.getCode after id
      = if codeId = id then .ok (some updated) else components.store.getCode world.stored id)
    (sameId : updated.codeId = codeId) {Broken' : String → Prop}
    (isBroken : Broken' codeId → updated.isBroken = true)
    (others : ∀ id, id ≠ codeId → Broken' id → Broken id) :
    components.KeepsBroken Valid Holds Broken'
      { world with stored := after, kept := components.forgotten world.kept codeId } := by
  refine ⟨valid, ?_, ?_, ?_⟩
  · intro id code found
    rw [read] at found
    split at found
    · rename_i same
      cases found
      exact ⟨sameId.trans same, fun broken => isBroken (same ▸ broken)⟩
    · rename_i different
      obtain ⟨sameId, wasBroken⟩ := keeps.stored found
      exact ⟨sameId, fun broken => wasBroken (others id (Ne.symm different) broken)⟩
  · intros
    trivial
  · intro id text record held decoded
    obtain ⟨different, held⟩ := faithful.holds_of_forgotten held
    obtain ⟨sameId, wasBroken⟩ := keeps.kept.code held decoded
    refine ⟨sameId, fun broken => wasBroken (others id ?_ broken)⟩
    rintro rfl
    exact different rfl

/-- A report keeps what is broken so, and what it breaks is broken from then on. -/
theorem KeepsBroken.reportError (keeps : components.KeepsBroken Valid Holds Broken world)
    (lawful : components.store.Lawful Valid) (faithful : components.IsFaithful Holds)
    (configId codeId : String) (secret : Option String) (report : ErrorReport) :
    let (answer, after) := (components.reportError configId codeId secret report).perform world
    components.KeepsBroken Valid Holds Broken after ∧
    ∀ outcome, answer = .ok outcome → outcome.isBroken = true →
      components.KeepsBroken Valid Holds (fun id => Broken id ∨ id = codeId) after := by
  have reported := components.reportError_reported configId codeId secret report world
  generalize (components.reportError configId codeId secret report).perform world = ended
    at reported ⊢
  cases reported with
  | refused refusal =>
    refine ⟨keeps, ?_⟩
    rintro outcome ⟨⟩
  | failed recorded =>
    obtain rfl := lawful.recordError_error recorded
    refine ⟨keeps, ?_⟩
    rintro outcome ⟨⟩
  | @recorded code report updated after found works recorded =>
    obtain ⟨valid, _, read, _⟩ := lawful.recordError_ok keeps.valid recorded
    have sameId : updated.codeId = codeId :=
      lawful.codeId_eq valid ((read codeId).trans (if_pos rfl))
    have spared : ¬ Broken codeId := by
      intro broken
      have isBroken := (keeps.stored found).2 broken
      exact Bool.false_ne_true (works.symm.trans isBroken)
    refine ⟨keeps.amended faithful valid read sameId (fun broken => absurd broken spared)
      fun _ _ broken => broken, ?_⟩
    rintro outcome ⟨⟩ isBroken
    refine keeps.amended faithful valid read sameId (fun _ => isBroken)
      fun id different broken => ?_
    exact broken.resolve_right different

/-- A script that runs makes no broken code version whole. -/
theorem KeepsBroken.runsOnce {after : World Stored Kept Engines}
    (keeps : components.KeepsBroken Valid Holds Broken world)
    (ran : components.RunsOnce world after) :
    components.KeepsBroken Valid Holds Broken after := by
  rcases ran with rfl | ⟨request, _, rfl⟩
  · exact keeps
  · exact ⟨keeps.valid, keeps.stored, keeps.kept⟩

/-- No event mends a broken code version, but writing it. -/
theorem KeepsBroken.step (keeps : components.KeepsBroken Valid Holds Broken world)
    (lawful : components.store.Lawful Valid) (faithful : components.IsFaithful Holds)
    {event : Event} (spares : event.Spares Broken) :
    components.KeepsBroken Valid Holds Broken (components.step world event) := by
  cases event with
  | operation operation =>
    cases operation with
    | getConfig configId request => exact (keeps.serve faithful configId request).1
    | reportError configId codeId secret report =>
      exact (keeps.reportError lawful faithful configId codeId secret report).1
    | runTest testId secret => exact keeps.runsOnce (components.runTest_world testId secret world)
    | runPlayground language request =>
      exact keeps.runsOnce (components.runPlayground_world language request world)
  | putConfig config =>
    obtain ⟨valid, sameCodes, _⟩ := lawful.putConfig_after keeps.valid config
    exact ⟨valid, fun found => keeps.stored (sameCodes ▸ found), keeps.kept⟩
  | putCode code =>
    obtain ⟨valid, _, read⟩ := lawful.putCode_after keeps.valid code
    refine ⟨valid, fun {id code'} found => ?_, keeps.kept⟩
    rcases read id with same | ⟨rfl, written⟩
    · exact keeps.stored (same.symm.trans found)
    · cases written.symm.trans found
      exact ⟨rfl, fun broken => absurd broken spares⟩
  | putTestCase testCase =>
    obtain ⟨valid, _, sameCodes⟩ := lawful.putTestCase_after keeps.valid testCase
    exact ⟨valid, fun found => keeps.stored (sameCodes ▸ found), keeps.kept⟩
  | wait duration => exact ⟨keeps.valid, keeps.stored, keeps.kept⟩

/-- Once a report has broken a code version, no request is answered with its result, from cached
records or not and for any configuration, until it is written again. -/
theorem broken_not_served (components : Components Stored Kept Engines)
    (lawful : components.store.Lawful Valid) (faithful : components.IsFaithful Holds)
    (world : World Stored Kept Engines) (valid : Valid world.stored)
    (empty : ∀ key text, ¬ Holds world.kept key text)
    (before after : List Event) (configId codeId : String) (secret : Option String)
    (report : ErrorReport) (outcome : ReportOutcome)
    (broke : ((components.reportError configId codeId secret report).perform
      (components.run world before)).1 = .ok outcome ∧ outcome.isBroken = true)
    (unwritten : ∀ code, .putCode code ∈ after → code.codeId ≠ codeId)
    (servedId : String) (request : ConfigRequest) (response : ConfigResponse)
    (served : ((components.serve servedId request).perform
      (components.run world
        (before ++ .operation (.reportError configId codeId secret report) :: after))).1
          = .ok response) :
    response.codeId ≠ codeId := by
  have initial : components.KeepsBroken Valid Holds (fun _ => False) world := by
    refine ⟨valid, fun found => ⟨lawful.codeId_eq valid found, False.elim⟩, ?_, ?_⟩
    · exact fun held => absurd held (empty _ _)
    · exact fun held => absurd held (empty _ _)
  have reached : components.KeepsBroken Valid Holds (fun _ => False)
      (components.run world before) := by
    refine components.run_induction (fun world event _ keeps => ?_) initial
    refine keeps.step lawful faithful ?_
    cases event <;> simp [Event.Spares]
  have broken := (reached.reportError lawful faithful configId codeId secret report).2 outcome
    broke.1 broke.2
  have lasting : components.KeepsBroken Valid Holds (fun id => False ∨ id = codeId)
      (components.run world
        (before ++ .operation (.reportError configId codeId secret report) :: after)) := by
    rw [components.run_append, components.run_cons]
    refine components.run_induction (fun world event mem keeps => ?_) broken
    refine keeps.step lawful faithful ?_
    cases event with
    | putCode code => simpa [Event.Spares] using unwritten code mem
    | _ => trivial
  have unbroken := (lasting.serve faithful servedId request).2 response served
  exact fun same => unbroken (.inr same)

end Components

/-! ## A release that breaks and is replaced -/

namespace ReplacedRelease

/-- A configuration with a released code version. -/
def config (releasedCode : String) : Config :=
  { configId := "app", releasedCode, status := "valid", secret := "key" }

/-- A code version. -/
def code (codeId : String) : Code := { codeId, lang := "starlark", content := "return 1" }

/-- The components: a relational store and a cache in memory; one report breaks a code version. -/
def components : Components Store.Tables Cache.MemoryRecordCache Unit where
  store := Store.Tables.ops
  records := some Cache.MemoryRecordCache.ops
  engines := BrokenRollout.echo
  wallClock _ := .ok 0
  settings := { breakThreshold := 0 }

/-- No records, and nothing kept. -/
def world : World Store.Tables Cache.MemoryRecordCache Unit := ⟨.empty, {}, (), 0⟩

/-- A request that accepts cached records. -/
def request : ConfigRequest := { cached := true }

/-- What happens before the report: the records are written, and kept after a request. -/
def before : List Event := [
  .putConfig (config "first"),
  .putCode (code "first"),
  .operation (.getConfig "app" request)]

/-- What happens after it: another code version is released. -/
def after : List Event := [
  .putCode (code "second"),
  .putConfig (config "second"),
  .operation (.getConfig "app" request),
  .wait (.ofSeconds 60)]

/-- The report breaks the first code version, and what is served in the end is the other one. -/
theorem broken_not_served_second :
    let report : Operation := .reportError "app" "first" (some "key") { time := 1 }
    ((components.reportError "app" "first" (some "key") { time := 1 }).perform
      (components.run world before)).1 = .ok ⟨"first", 1, true⟩ ∧
    ((components.serve "app" request).perform
      (components.run world (before ++ .operation report :: after))).1
        = .ok ⟨"return 1", "second"⟩ ∧
    "second" ≠ "first" := by
  have faithful : components.IsFaithful Cache.MemoryRecordCache.Holds :=
    ⟨fun caching => Option.some.inj caching ▸ Cache.MemoryRecordCache.faithful, nofun⟩
  have broke : ((components.reportError "app" "first" (some "key") { time := 1 }).perform
      (components.run world before)).1 = .ok ⟨"first", 1, true⟩ := by decide +kernel
  have unwritten : ∀ code, .putCode code ∈ after → code.codeId ≠ "first" := by
    simp [after, code]
  have served : ((components.serve "app" request).perform (components.run world
      (before ++ .operation (.reportError "app" "first" (some "key") { time := 1 }) :: after))).1
        = .ok ⟨"return 1", "second"⟩ := by decide +kernel
  refine ⟨broke, served, ?_⟩
  exact components.broken_not_served Store.Tables.lawful faithful world
    Store.Tables.isNumbered_empty Cache.MemoryRecordCache.not_holds_empty before after "app" "first"
    (some "key") { time := 1 } ⟨"first", 1, true⟩ ⟨broke, rfl⟩ unwritten "app" request
    ⟨"return 1", "second"⟩ served

end ReplacedRelease

end ConfigDelivery.Delivery
