import ConfigDelivery.Proofs.Cache.Records
import ConfigDelivery.Proofs.Delivery.Tripping
import ConfigDelivery.Proofs.Store.Backends
/-!
# What a report leaves behind

A report that is answered with a refusal leaves everything as it was, wherever it was stopped: at a
gate, at the clock or in the store. One that is answered otherwise went through every gate, and what
it leaves behind is told field by field: one more report, one more error and the mark of a broken
code version in its record, and no kept text of it, unless the cache fails to drop that.
-/

namespace ConfigDelivery.Delivery

open ConfigDelivery.Cache (RecordCacheOps codeKey dropped)
open ConfigDelivery.Store (Backend greatestCount)

variable {Kept Engines Entry : Type}

namespace Components

/-- A report is dated as it says itself, or else by the calendar clock. -/
structure IsDated {Stored : Type} (components : Components Stored Kept Engines) (now : Instant)
    (report dated : ErrorReport) : Prop where
  message : dated.message = report.message
  ownTime : 0 < report.time → dated.time = report.time
  clockTime : report.time ≤ 0 → ∃ seconds, components.wallClock now = .ok seconds ∧
    dated.time.toInt = min seconds lastSecond

/-- A report that is dated carries its own time if it is positive, and else the server's. -/
theorem isDated_of_datedReport {Stored : Type} {components : Components Stored Kept Engines}
    {now : Instant} {report dated : ErrorReport}
    (isDated : components.datedReport now report = .ok dated) :
    components.IsDated now report dated := by
  unfold datedReport at isDated
  split at isDated
  · rename_i noTime
    split at isDated
    · cases isDated
    · rename_i seconds shown
      obtain rfl := Except.ok.inj isDated
      refine ⟨rfl, fun hasTime => absurd hasTime (Int64.not_lt.mpr noTime), fun _ => ?_⟩
      refine ⟨seconds, shown, ?_⟩
      have limit : min seconds lastSecond ≤ 0x7fffffffffffffff := Nat.min_le_right ..
      rw [Int64.toInt_ofNat_of_lt (by omega)]
  · rename_i hasTime
    obtain rfl := Except.ok.inj isDated
    exact ⟨rfl, fun _ => rfl, fun noTime => absurd noTime hasTime⟩

variable {backend : Backend} (components : Components backend.Contents Kept Engines)

/-- A report that was taken: the caller may report, the code version works, and the report is all
that changed. -/
structure ReportTaken (entries : Kept → String → Option Entry) (configId codeId : String)
    (secret : Option String) (report : ErrorReport)
    (world after : World backend.Contents Kept Engines) (outcome : ReportOutcome) (config : Config)
    (code : Code) (dated : ErrorReport) (count : UInt32) : Prop where
  configured : backend.ops.getConfig world.stored configId = .ok (some config)
  mayReport : MayReport config codeId secret
  found : backend.ops.getCode world.stored codeId = .ok (some code)
  works : code.isBroken = false
  isDated : components.IsDated world.now report dated
  /-- At the greatest count the store in memory stays, and the tables take no report. -/
  counted : count.toNat = code.errorCount.toNat + 1 ∨
    backend = .memory ∧ code.errorCount = greatestCount ∧ count = greatestCount
  valid : backend.Valid after.stored
  stored : backend.ops.view after.stored
    = (backend.ops.view world.stored).addReport codeId dated { code with
        errorCount := count
        isBroken := components.settings.breakThreshold < count }
  kept : ∀ {records}, components.records = some records →
    entries after.kept = dropped (entries world.kept) (codeKey codeId)
      (records.remove world.kept (codeKey codeId)).1
  keptNowhere : components.records = none → after.kept = world.kept
  engines : after.engines = world.engines
  now : after.now = world.now
  outcome_eq : outcome = ⟨codeId, count, components.settings.breakThreshold < count⟩

variable {components}

/-- What recording a report leaves behind, if the store takes it. -/
theorem reportTaken_of_takes {entries : Kept → String → Option Entry}
    (drops : ∀ {records}, components.records = some records → records.Drops entries)
    {world : World backend.Contents Kept Engines} {configId codeId : String}
    {secret : Option String} {report dated : ErrorReport} {config : Config} {code updated : Code}
    {after : backend.Contents} (valid : backend.Valid world.stored)
    (configured : backend.ops.getConfig world.stored configId = .ok (some config))
    (mayReport : MayReport config codeId secret)
    (found : backend.ops.getCode world.stored codeId = .ok (some code))
    (works : code.isBroken = false) (isDated : components.IsDated world.now report dated)
    (takes : backend.Takes world.stored after codeId dated components.settings.breakThreshold
      code updated) :
    components.ReportTaken entries configId codeId secret report world
      { world with stored := after, kept := components.forgotten world.kept codeId }
      ⟨updated.codeId, updated.errorCount, updated.isBroken⟩ config code dated
      (Store.MemoryStore.nextCount code.errorCount) := by
  have sameId : code.codeId = codeId := backend.lawful.codeId_eq valid found
  have updatedIs := takes.updated_eq.trans (Store.MemoryStore.withError_of_works works _)
  subst updatedIs
  exact {
    configured, mayReport, found, works, isDated
    counted := by
      rcases Store.MemoryStore.toNat_nextCount code.errorCount with counted | ⟨greatest, stays⟩
      · exact .inl counted
      · cases backend with
        | memory => exact .inr ⟨rfl, greatest, stays⟩
        | relational => exact absurd greatest (takes.countable rfl)
    valid := takes.valid
    stored := takes.view_eq
    kept := fun {records} hasRecords => by
      rw [forgotten, hasRecords]
      exact drops hasRecords world.kept (codeKey codeId)
    keptNowhere := fun noRecords => by rw [forgotten, noRecords]
    engines := rfl
    now := rfl
    outcome_eq := by rw [sameId] }

/-- An error report is taken as a whole or not at all. If it is answered with a refusal, the
records, the reports, the kept texts and the engines are as before, even when it is the store that
failed. If not, the caller showed the secret of an active configuration that has the code version
out, which works, and all that changed is one more report at the end, dated by the caller or by the
clock, one more error in the code version and the mark of a broken one when these are too many, and
the kept text, which is gone unless the cache fails to drop it. The answer tells of the code version
as it is now. -/
theorem reportError_all_or_nothing (components : Components backend.Contents Kept Engines)
    (methods : List Store.Method) (fromBackend : components.store = backend.ops.failing methods)
    (entries : Kept → String → Option Entry)
    (drops : ∀ {records}, components.records = some records → records.Drops entries)
    (world : World backend.Contents Kept Engines) (valid : backend.Valid world.stored)
    (configId codeId : String) (secret : Option String) (report : ErrorReport) :
    let (answer, after) := (components.reportError configId codeId secret report).perform world
    (∀ refusal, answer = .error refusal → after = world) ∧
    ∀ outcome, answer = .ok outcome →
      ∃ config code dated count, components.ReportTaken entries configId codeId secret report
        world after outcome config code dated count := by
  rw [reportError_eq]
  cases decided : components.reportDecision world configId codeId secret report with
  | error refusal => exact ⟨fun _ _ => rfl, by rintro _ ⟨⟩⟩
  | ok dated =>
    obtain ⟨⟨config, configured, mayReport⟩, ⟨code, found, works⟩, isDated⟩ :=
      components.reportDecision_eq_ok_iff.mp decided
    rw [fromBackend] at configured found
    have configured := Store.RecordStoreOps.failing_getConfig_eq_ok configured
    have found := Store.RecordStoreOps.failing_getCode_eq_ok found
    dsimp only
    rw [recorded, fromBackend]
    rcases recorded : (backend.ops.failing methods).recordError world.stored codeId dated
      components.settings.breakThreshold with ⟨failure | updated, after⟩
    · obtain rfl := backend.lawful.failing_recordError_error recorded
      exact ⟨fun _ _ => rfl, by rintro _ ⟨⟩⟩
    · refine ⟨by rintro _ ⟨⟩, ?_⟩
      rintro outcome ⟨⟩
      have takes := backend.takes_of_recordError valid found
        (Store.RecordStoreOps.failing_recordError_eq_ok recorded)
      exact ⟨config, code, dated, _, reportTaken_of_takes drops valid configured mayReport found
        works (isDated_of_datedReport isDated) takes⟩

end Components

/-! ## A report in relational tables -/

namespace KeptReport

/-- The components, on tables whose methods may have been made to fail. -/
def components (methods : List Store.Method) :
    Components Backend.relational.Contents Cache.MemoryRecordCache Unit where
  store := Backend.relational.ops.failing methods
  records := some Cache.MemoryRecordCache.ops
  engines := BrokenRollout.echo
  wallClock now := .ok (now / 1000000)
  settings := {}

/-- Two code versions, the texts of which are kept. -/
def world : World Backend.relational.Contents Cache.MemoryRecordCache Unit where
  stored := MixedReports.stored
  kept := ⟨⟨[("code/first", ⟨"first", 60000000⟩), ("code/second", ⟨"second", 60000000⟩)]⟩⟩
  engines := ()
  now := 10000000

/-- A report without a time. -/
def report : ErrorReport := { message := "boom" }

/-- The report is dated, counted and kept, and the text of its code version is gone. If the tables
fail to record it, everything is as before. -/
theorem reportError_all_or_nothing_kept :
    (∃ after, ((components []).reportError "app" "first" (some "key") report).perform world
        = (.ok ⟨"first", 2, false⟩, after) ∧
      Backend.relational.ops.errorReports after.stored "first" = .ok [⟨10, "boom"⟩] ∧
      after.kept.entryOf "code/first" = none ∧
      after.kept.entryOf "code/second" = some ⟨"second", 60000000⟩) ∧
    ∃ refusal, ((components [.recordError]).reportError "app" "first" (some "key") report).perform
      world = (.error refusal, world) := by
  have numbered : Backend.relational.Valid world.stored :=
    MixedReports.isReferenced_stored.toIsNumbered
  have drops {methods : List Store.Method} {records : RecordCacheOps Cache.MemoryRecordCache}
      (hasRecords : (components methods).records = some records) :
      records.Drops Cache.MemoryRecordCache.entryOf := by
    obtain rfl := Option.some.inj hasRecords
    exact Cache.MemoryRecordCache.drops
  have reported {methods : List Store.Method} :=
    (components methods).reportError_all_or_nothing methods rfl _ drops world numbered "app" "first"
      (some "key") report
  constructor
  · have answered :
        (((components []).reportError "app" "first" (some "key") report).perform world).1
          = .ok ⟨"first", 2, false⟩ := by decide
    have noReports : Backend.relational.ops.errorReports world.stored "first" = .ok [] := by
      decide
    obtain ⟨after, ran⟩ : ∃ after,
        ((components []).reportError "app" "first" (some "key") report).perform world
          = (.ok ⟨"first", 2, false⟩, after) := ⟨_, Prod.ext answered rfl⟩
    have whole := @reported []
    rw [ran] at whole
    obtain ⟨config, code, dated, count, taken⟩ := whole.2 _ rfl
    have isDated : dated = ⟨10, "boom"⟩ := by
      obtain ⟨seconds, shown, time⟩ := taken.isDated.clockTime (by decide)
      obtain rfl := Except.ok.inj shown
      exact congrArg₂ ErrorReport.mk (Int64.toInt_inj.mp time) taken.isDated.message
    refine ⟨after, ran, ?_, ?_, ?_⟩
    · have reports := congrFun (congrArg Store.View.reports taken.stored) "first"
      simp only [Store.RecordStoreOps.view, Store.View.addReport, if_pos, noReports, isDated]
        at reports
      exact reports
    · rw [taken.kept rfl]
      rfl
    · rw [taken.kept rfl]
      rfl
  · have refused : ∃ refusal,
        (((components [.recordError]).reportError "app" "first" (some "key") report).perform
          world).1 = .error refusal := ⟨_, rfl⟩
    obtain ⟨refusal, refused⟩ := refused
    exact ⟨refusal, Prod.ext refused (reported.1 refusal refused)⟩

end KeptReport

end ConfigDelivery.Delivery
