import ConfigDelivery.Delivery.Report
import ConfigDelivery.Proofs.Delivery.Decision
/-!
# What an error report comes to

The decision on a report is an order of gates: the secret, the configuration, its code versions and
the code version itself. A report that passes them all comes to be dated, and is recorded in the
store. `reportError` answers what the decision says, and a refused report changes nothing.
-/

namespace ConfigDelivery.Delivery

variable {Stored Kept Engines : Type}

/-- The record of a configuration, active or not. -/
def reportedConfig (configId : String) :
    Except Failure (Option Config) → Except DeliveryError Config
  | .error failure => .error (.internal failure.plain)
  | .ok none => .error (configMissing configId)
  | .ok (some config) => .ok config

/-- The refusal of a report about a code version that earlier reports have broken. -/
def alreadyBroken : DeliveryError := .forbidden "the code is already disabled due to errors"

/-- A code version takes a report as long as it works. -/
def reportableCode (codeId : String) : Except Failure (Option Code) → Except DeliveryError Unit
  | .error failure => .error (.internal failure.plain)
  | .ok none => .error (.internal ("code record " ++ codeId ++ " does not exist"))
  | .ok (some code) => if code.isBroken then .error alreadyBroken else .ok ()

/-- A report needs its configuration to be stored. -/
theorem reportedConfig_eq_ok_iff {configId : String} {found : Except Failure (Option Config)}
    {config : Config} : reportedConfig configId found = .ok config ↔ found = .ok (some config) := by
  rcases found with failure | _ | config <;> simp [reportedConfig]

/-- A report needs a stored code version that is not broken. -/
theorem reportableCode_eq_ok_iff {codeId : String} {found : Except Failure (Option Code)} :
    reportableCode codeId found = .ok () ↔
      ∃ code, found = .ok (some code) ∧ code.isBroken = false := by
  rcases found with failure | _ | code
  · simp [reportableCode]
  · simp [reportableCode]
  · cases broken : code.isBroken <;> simp [reportableCode, broken]

/-- A caller shows the secret of a configuration that is served and has a code version out. -/
def MayReport (config : Config) (codeId : String) (secret : Option String) : Prop :=
  secret = some config.secret ∧ config.secret ≠ "" ∧ config.status = "valid" ∧
  (codeId = config.releasedCode ∨ config.grayReleaseCode ≠ "" ∧ codeId = config.grayReleaseCode)

instance (config : Config) (codeId : String) (secret : Option String) :
    Decidable (MayReport config codeId secret) :=
  inferInstanceAs (Decidable (_ ∧ _ ∧ _ ∧ (_ ∨ _ ∧ _)))

/-- A secret is given if it is there and not empty. -/
theorem givenSecret_eq_ok_iff {secret : Option String} {given : String} :
    givenSecret secret = .ok given ↔ secret = some given ∧ given ≠ "" := by
  cases secret with
  | none => simp [givenSecret]
  | some secret =>
    by_cases empty : secret = ""
    · subst empty
      simp [givenSecret]
    · simp only [givenSecret, String.isEmpty_iff, if_neg empty, Except.ok.injEq, Option.some.injEq]
      exact ⟨fun same => ⟨same, same ▸ empty⟩, And.left⟩

/-- A configuration without a secret takes none. -/
theorem requireConfigSecret_eq_ok_iff {config : Config} {secret : String} :
    requireConfigSecret config secret = .ok () ↔ config.secret ≠ "" ∧ config.secret = secret := by
  simp only [requireConfigSecret, String.isEmpty_iff]
  by_cases mismatched : config.secret = "" ∨ config.secret ≠ secret
  · rw [if_pos mismatched]
    exact ⟨nofun, fun ⟨nonempty, same⟩ => (mismatched.elim nonempty (· same)).elim⟩
  · rw [if_neg mismatched]
    obtain ⟨nonempty, same⟩ := not_or.mp mismatched
    exact ⟨fun _ => ⟨nonempty, not_not.mp same⟩, fun _ => rfl⟩

/-- A report needs a valid configuration. -/
theorem requireActive_eq_ok_iff {config : Config} :
    requireActive config = .ok () ↔ config.status = "valid" := by
  by_cases active : config.status = "valid" <;>
    simp [requireActive, Config.isActive, Config.activeStatus, active]

/-- A configuration serves its release, and its gray code if it names one. -/
theorem servesCode_iff {config : Config} {codeId : String} :
    servesCode config codeId = true ↔ codeId = config.releasedCode ∨
      config.grayReleaseCode ≠ "" ∧ codeId = config.grayReleaseCode := by
  simp [servesCode]

/-- A report is accepted for the secret of a valid configuration that serves the code version. -/
theorem acceptsReport_eq_ok_iff {config : Config} {configId codeId secret : String} :
    acceptsReport config configId codeId secret = .ok () ↔
      requireConfigSecret config secret = .ok () ∧ requireActive config = .ok () ∧
      servesCode config codeId = true := by
  unfold acceptsReport
  cases requireConfigSecret config secret with
  | error refusal => exact ⟨nofun, nofun⟩
  | ok known =>
    cases requireActive config with
    | error refusal => exact ⟨nofun, nofun⟩
    | ok active =>
      cases servesCode config codeId with
      | false => exact ⟨nofun, nofun⟩
      | true => exact ⟨fun _ => ⟨rfl, rfl, rfl⟩, fun _ => rfl⟩

/-- The gates before that of the code version are open to the callers that may report. -/
theorem mayReport_iff {config : Config} {codeId : String} {secret : Option String}
    (configId : String) :
    MayReport config codeId secret ↔
      ∃ given, givenSecret secret = .ok given ∧
        acceptsReport config configId codeId given = .ok () := by
  simp only [acceptsReport_eq_ok_iff, givenSecret_eq_ok_iff, requireConfigSecret_eq_ok_iff,
    requireActive_eq_ok_iff, servesCode_iff]
  constructor
  · rintro ⟨rfl, nonempty, active, serves⟩
    exact ⟨_, ⟨rfl, nonempty⟩, ⟨nonempty, rfl⟩, active, serves⟩
  · rintro ⟨given, ⟨rfl, nonempty⟩, ⟨_, rfl⟩, active, serves⟩
    exact ⟨rfl, nonempty, active, serves⟩

namespace Components

variable (components : Components Stored Kept Engines)

/-- A report with a time, which is that of the calendar clock if it has none. -/
def datedReport (now : Instant) (report : ErrorReport) : Except DeliveryError ErrorReport :=
  if report.time ≤ 0 then
    match components.wallClock now with
    | .error failure => .error (.internal failure.plain)
    | .ok seconds => .ok { report with time := Int64.ofNat (min seconds lastSecond) }
  else .ok report

/-- What a report comes to: a refusal by the first gate that it fails, or the report to record. -/
def reportDecision (world : World Stored Kept Engines) (configId codeId : String)
    (secret : Option String) (report : ErrorReport) : Except DeliveryError ErrorReport := do
  let secret ← givenSecret secret
  let config ← reportedConfig configId (components.store.getConfig world.stored configId)
  acceptsReport config configId codeId secret
  reportableCode codeId (components.store.getCode world.stored codeId)
  components.datedReport world.now report

/-- The reports that pass every gate are those of callers that may report, about a code version that
works. -/
theorem reportDecision_eq_ok_iff {world : World Stored Kept Engines} {configId codeId : String}
    {secret : Option String} {report dated : ErrorReport} :
    components.reportDecision world configId codeId secret report = .ok dated ↔
      (∃ config, components.store.getConfig world.stored configId = .ok (some config) ∧
        MayReport config codeId secret) ∧
      (∃ code, components.store.getCode world.stored codeId = .ok (some code) ∧
        code.isBroken = false) ∧
      components.datedReport world.now report = .ok dated := by
  constructor
  · intro decided
    obtain ⟨given, isGiven, decided⟩ := bind_eq_ok decided
    obtain ⟨config, configured, decided⟩ := bind_eq_ok decided
    obtain ⟨_, accepts, decided⟩ := bind_eq_ok decided
    obtain ⟨_, takes, isDated⟩ := bind_eq_ok decided
    exact ⟨⟨config, reportedConfig_eq_ok_iff.mp configured,
      (mayReport_iff configId).mpr ⟨given, isGiven, accepts⟩⟩,
      reportableCode_eq_ok_iff.mp takes, isDated⟩
  · rintro ⟨⟨config, configured, may⟩, works, isDated⟩
    obtain ⟨given, isGiven, accepts⟩ := (mayReport_iff configId).mp may
    rw [reportDecision, isGiven, ok_bind, reportedConfig_eq_ok_iff.mpr configured, ok_bind, accepts,
      ok_bind, reportableCode_eq_ok_iff.mpr works, ok_bind, isDated]

/-- A caller that may report is told when the code version is broken already. -/
theorem reportDecision_of_broken {world : World Stored Kept Engines} {configId codeId : String}
    {secret : Option String} {config : Config} {code : Code}
    (configured : components.store.getConfig world.stored configId = .ok (some config))
    (may : MayReport config codeId secret)
    (found : components.store.getCode world.stored codeId = .ok (some code))
    (broken : code.isBroken = true) (report : ErrorReport) :
    components.reportDecision world configId codeId secret report = .error alreadyBroken := by
  obtain ⟨given, isGiven, accepts⟩ := (mayReport_iff configId).mp may
  rw [reportDecision, isGiven, ok_bind, reportedConfig_eq_ok_iff.mpr configured, ok_bind, accepts,
    ok_bind, found, reportableCode, if_pos broken]
  rfl

/-- The texts that are kept after the text of a code version was dropped. -/
def forgotten (kept : Kept) (codeId : String) : Kept :=
  match components.records with
  | none => kept
  | some records => (records.remove kept (Cache.codeKey codeId)).2

/-- To forget a code version changes nothing but the cache. -/
theorem forgetCode_eq (codeId : String) (world : World Stored Kept Engines) :
    components.forgetCode codeId world
      = ((), { world with kept := components.forgotten world.kept codeId }) := by
  unfold forgetCode forgotten
  cases components.records <;> rfl

/-- Record a report: the answer is the code version afterwards, whose kept text is dropped. -/
def recorded (world : World Stored Kept Engines) (codeId : String) (report : ErrorReport) :
    Except DeliveryError ReportOutcome × World Stored Kept Engines :=
  match components.store.recordError world.stored codeId report
      components.settings.breakThreshold with
  | (.error failure, stored) => (.error (.internal failure.full), { world with stored })
  | (.ok updated, stored) =>
    (.ok ⟨updated.codeId, updated.errorCount, updated.isBroken⟩,
      { world with stored, kept := components.forgotten world.kept codeId })

/-- To date a report changes nothing. -/
theorem dated_perform (report : ErrorReport) (world : World Stored Kept Engines) :
    (components.dated report).perform world = (components.datedReport world.now report, world) := by
  unfold dated datedReport
  split
  · rw [Action.perform_get_bind]
    cases components.wallClock world.now <;> rfl
  · rfl

/-- To record a report changes nothing but the store. -/
theorem record_perform (codeId : String) (report : ErrorReport)
    (world : World Stored Kept Engines) :
    (components.record codeId report).perform world =
      let (result, stored) := components.store.recordError world.stored codeId report
        components.settings.breakThreshold
      (result.mapError fun failure => .internal failure.full, { world with stored }) := by
  rw [record, Action.perform_get_bind]
  rcases components.store.recordError world.stored codeId report
    components.settings.breakThreshold with ⟨_ | _, stored⟩ <;> rfl

/-- `reportError` answers the decision on a report. -/
theorem reportError_eq (configId codeId : String) (secret : Option String) (report : ErrorReport)
    (world : World Stored Kept Engines) :
    (components.reportError configId codeId secret report).perform world =
      match components.reportDecision world configId codeId secret report with
      | .error refusal => (.error refusal, world)
      | .ok dated => components.recorded world codeId dated := by
  rw [reportError, reportDecision, Action.perform_bind, Action.perform_conclude]
  cases givenSecret secret with
  | error refusal => rfl
  | ok secret =>
    rw [ok_bind]
    dsimp only
    rw [read_bind_world]
    rcases components.store.getConfig world.stored configId with failure | _ | config
    · rfl
    · rfl
    · dsimp only [reportedConfig]
      rw [ok_bind, Action.perform_bind, Action.perform_conclude]
      cases acceptsReport config configId codeId secret with
      | error refusal => rfl
      | ok accepted =>
        rw [ok_bind]
        dsimp only
        rw [read_bind_world]
        rcases components.store.getCode world.stored codeId with failure | _ | code
        · rfl
        · rfl
        · dsimp only [reportableCode]
          by_cases broken : code.isBroken = true
          · rw [if_pos broken, if_pos broken]
            rfl
          · rw [if_neg broken, if_neg broken, ok_bind, Action.perform_bind, dated_perform]
            cases components.datedReport world.now report with
            | error refusal => rfl
            | ok dated =>
              dsimp only
              rw [Action.perform_bind, record_perform, recorded]
              rcases components.store.recordError world.stored codeId dated
                components.settings.breakThreshold with ⟨failure | updated, stored⟩
              · rfl
              · dsimp only [Except.mapError]
                rw [Action.perform_lift_bind, forgetCode_eq]
                rfl

/-- A report is refused and changes nothing, or an error is recorded in the store. If the store
fails to, the report is refused; if not, the kept text of the code version is dropped, and the
answer tells of the code version as it is from now on. -/
inductive Reported (codeId : String) (world : World Stored Kept Engines) :
    Except DeliveryError ReportOutcome × World Stored Kept Engines → Prop where
  | refused (refusal : DeliveryError) : Reported codeId world (.error refusal, world)
  | failed {report failure after}
      (recorded : components.store.recordError world.stored codeId report
        components.settings.breakThreshold = (.error failure, after)) :
      Reported codeId world (.error (.internal failure.full), { world with stored := after })
  | recorded {code report updated after}
      (found : components.store.getCode world.stored codeId = .ok (some code))
      (works : code.isBroken = false)
      (recorded : components.store.recordError world.stored codeId report
        components.settings.breakThreshold = (.ok updated, after)) :
      Reported codeId world (.ok ⟨updated.codeId, updated.errorCount, updated.isBroken⟩,
        { world with stored := after, kept := components.forgotten world.kept codeId })

/-- A report is refused, or the store is asked to record it, and then the code version is forgotten
if the store did. -/
theorem reportError_reported (configId codeId : String) (secret : Option String)
    (report : ErrorReport) (world : World Stored Kept Engines) :
    components.Reported codeId world
      ((components.reportError configId codeId secret report).perform world) := by
  rw [reportError_eq]
  cases decided : components.reportDecision world configId codeId secret report with
  | error refusal => exact .refused refusal
  | ok dated =>
    obtain ⟨_, ⟨code, found, works⟩, _⟩ := components.reportDecision_eq_ok_iff.mp decided
    dsimp only
    unfold recorded
    split
    · rename_i recorded
      exact .failed recorded
    · rename_i recorded
      exact .recorded found works recorded

end Components

end ConfigDelivery.Delivery
