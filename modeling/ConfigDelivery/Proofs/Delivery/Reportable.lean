import ConfigDelivery.Proofs.Delivery.Fallback
import ConfigDelivery.Proofs.Delivery.Runs
import ConfigDelivery.Proofs.Store.Backends
/-!
# Reports on what was served

The choice of a code version and the check of a report decide, each on its own, which code versions
belong to a configuration. The choice may resolve the gray code version of a configuration that
names none; the check knows no such version. Up to that, whatever was served can be reported.
-/

namespace ConfigDelivery.Store

/-- A method that was not made to fail works as before. -/
theorem RecordStoreOps.failing_recordError {State : Type} (store : RecordStoreOps State)
    {methods : List Method} (works : .recordError ∉ methods) :
    (store.failing methods).recordError = store.recordError := by
  funext state id report threshold
  exact if_neg fun fails => works (List.contains_iff_mem.mp fails)

/-- Both stores take reports on a code version whose errors can be counted. -/
theorem Backend.recordError_of_countable (backend : Backend) {contents : backend.Contents}
    (valid : backend.Valid contents) {id : String} {code : Code}
    (found : backend.ops.getCode contents id = .ok (some code))
    (countable : code.errorCount ≠ greatestCount) (report : ErrorReport) (threshold : UInt32) :
    (backend.ops.recordError contents id report threshold).1 = .ok (reported code threshold) := by
  cases backend with
  | memory =>
    have taken := MemoryStore.recordError_of_found (Except.ok.inj found) report threshold
    rw [MemoryStore.withError_eq countable] at taken
    exact congrArg Prod.fst taken
  | relational =>
    obtain ⟨row, picked, read⟩ := Tables.getCode_eq_some found
    exact congrArg Prod.fst
      (Tables.recordError_of_row valid picked read countable report threshold)

end ConfigDelivery.Store

namespace ConfigDelivery.Delivery

open ConfigDelivery.Targeting (isGrayHit)

/-! ## The versions of a configuration -/

/-- The identifiers of the code versions that a device can be served. -/
def MayGet (config : Config) (deviceId codeId : String) : Prop :=
  codeId = config.releasedCode ∨
    isGrayHit config deviceId = true ∧ codeId = config.grayReleaseCode

/-- The check of a report knows every version that a device can be served, but for a gray one
without a name. -/
theorem MayGet.servesCode_iff {config : Config} {deviceId codeId : String}
    (got : MayGet config deviceId codeId) :
    servesCode config codeId = true ↔ (codeId = "" → config.releasedCode = "") := by
  rw [Delivery.servesCode_iff]
  rcases got with rfl | ⟨-, rfl⟩
  · exact ⟨fun _ => id, fun _ => .inl rfl⟩
  · by_cases unnamed : config.grayReleaseCode = ""
    · simp only [unnamed, ne_eq, not_true_eq_false, false_and, or_false, forall_const]
      exact eq_comm
    · exact ⟨fun _ empty => absurd empty unnamed, fun _ => .inr ⟨unnamed, rfl⟩⟩

/-- Where the release has a name, only a hit on a gray code without one asks for the empty
identifier. -/
theorem MayGet.of_empty {config : Config} {deviceId : String} (got : MayGet config deviceId "")
    (named : config.releasedCode ≠ "") :
    config.grayReleaseCode = "" ∧ isGrayHit config deviceId = true := by
  rcases got with released | ⟨hit, gray⟩
  · exact absurd released.symm named
  · exact ⟨gray.symm, hit⟩

/-- A gray code version is chosen on a hit alone. -/
theorem found_of_chosenCode {config : Config} {deviceId : String}
    {gray released : Except Failure (Option Code)} {code : Code}
    (chosen : chosenCode config deviceId gray released = .ok code) :
    isGrayHit config deviceId = true ∧ gray = .ok (some code) ∨ released = .ok (some code) := by
  by_cases hit : isGrayHit config deviceId = true
  · exact (chosenCode_eq_ok chosen).imp_left (⟨hit, ·⟩)
  · rw [chosenCode_eq, grayChoice?_eq, if_neg hit] at chosen
    rcases released with failure | _ | code
    · cases chosen
    · cases chosen
    · exact .inr (congrArg (Except.ok ∘ some) (Except.ok.inj chosen))

/-- A configuration that is served is valid. -/
theorem isActive_of_servedConfig {configId : String} {found : Except Failure (Option Config)}
    {config : Config} (served : servedConfig configId found = .ok config) :
    config.status = "valid" := by
  obtain rfl := servedConfig_eq_ok served
  rw [servedConfig] at served
  split at served
  · assumption
  · cases served

/-- The refusal of a report on a code version that a configuration does not have out. -/
def notCurrent (configId codeId : String) : DeliveryError :=
  .input ("code " ++ codeId ++ " is not a current version of config " ++ configId)

/-- Of a caller that shows the secret of an active configuration, the version alone is asked. -/
theorem acceptsReport_of_known {config : Config} {configId codeId secret : String}
    (known : requireConfigSecret config secret = .ok ()) (active : requireActive config = .ok ()) :
    acceptsReport config configId codeId secret =
      if servesCode config codeId then .ok () else .error (notCurrent configId codeId) := by
  rw [acceptsReport, known, ok_bind, active, ok_bind]
  cases servesCode config codeId <;> rfl

variable {Stored Kept Engines : Type}

namespace Components

/-- A code version that a device was served, as the records stand. -/
structure IsVersion (components : Components Stored Kept Engines) (stored : Stored)
    (configId deviceId codeId : String) (config : Config) (code : Code) : Prop where
  configured : components.store.getConfig stored configId = .ok (some config)
  active : config.status = "valid"
  mayGet : MayGet config deviceId codeId
  found : components.store.getCode stored codeId = .ok (some code)
  works : code.isBroken = false

/-- An answer without cached records names a version of an active configuration. -/
theorem exists_isVersion (components : Components Stored Kept Engines)
    {world : World Stored Kept Engines}
    (ownId : ∀ {id code}, components.store.getCode world.stored id = .ok (some code) →
      code.codeId = id)
    {configId : String} {request : ConfigRequest} (uncached : request.cached = false)
    {response : ConfigResponse}
    (served : ((components.serve configId request).perform world).1 = .ok response) :
    ∃ config code, components.IsVersion world.stored configId request.requestMeta.deviceId
      response.codeId config code := by
  obtain ⟨kept, -, performed⟩ :=
    (components.finds_uncached world).serve_eq_of trivial configId uncached
  rw [performed] at served
  cases decided : (Findings.of (components.store.getConfig world.stored)
    (components.store.getCode world.stored) configId).decision configId request with
  | error refusal =>
    rw [decided] at served
    cases served
  | ok script =>
    rw [decided] at served
    obtain ⟨config, isServed, decided⟩ := bind_eq_ok decided
    obtain ⟨code, chosen, decided⟩ := bind_eq_ok decided
    obtain ⟨_, permitted, decided⟩ := bind_eq_ok decided
    obtain ⟨_, -, decided⟩ := bind_eq_ok decided
    obtain ⟨_, -, decided⟩ := bind_eq_ok decided
    cases decided
    have named : response.codeId = code.codeId := ServedScript.codeId_of_answer served
    have version (codeId : String) (mayGet : MayGet config request.requestMeta.deviceId codeId)
        (found : components.store.getCode world.stored codeId = .ok (some code)) :
        components.IsVersion world.stored configId request.requestMeta.deviceId
          response.codeId config code := by
      rw [named, ownId found]
      exact ⟨servedConfig_eq_ok isServed, isActive_of_servedConfig isServed, mayGet, found,
        permission_eq_ok permitted⟩
    rcases found_of_chosenCode chosen with ⟨hit, isGray⟩ | isReleased
    · exact ⟨config, code, version _ (.inr ⟨hit, rfl⟩) isGray⟩
    · exact ⟨config, code, version _ (.inl rfl) isReleased⟩

/-- A report about a version of a configuration, with its secret, is refused if the check does not
know the version, and otherwise comes to be dated. -/
theorem IsVersion.reportDecision_eq {components : Components Stored Kept Engines}
    {world : World Stored Kept Engines} {configId deviceId codeId : String} {config : Config}
    {code : Code} (version : components.IsVersion world.stored configId deviceId codeId config code)
    (secret : config.secret ≠ "") (report : ErrorReport) :
    components.reportDecision world configId codeId (some config.secret) report =
      if codeId = "" ∧ config.releasedCode ≠ "" then .error (notCurrent configId codeId)
      else components.datedReport world.now report := by
  have known : requireConfigSecret config config.secret = .ok () :=
    requireConfigSecret_eq_ok_iff.mpr ⟨secret, rfl⟩
  have works : reportableCode codeId (.ok (some code)) = .ok () :=
    reportableCode_eq_ok_iff.mpr ⟨code, rfl, version.works⟩
  rw [reportDecision, givenSecret_eq_ok_iff.mpr ⟨rfl, secret⟩, ok_bind, version.configured,
    reportedConfig, ok_bind,
    acceptsReport_of_known known (requireActive_eq_ok_iff.mpr version.active), version.found, works]
  by_cases unknown : codeId = "" ∧ config.releasedCode ≠ ""
  · have unserved : ¬servesCode config codeId = true :=
      fun serves => unknown.2 (version.mayGet.servesCode_iff.mp serves unknown.1)
    rw [if_pos unknown, if_neg unserved]
    rfl
  · have serves : servesCode config codeId = true :=
      version.mayGet.servesCode_iff.mpr fun empty => not_not.mp fun named => unknown ⟨empty, named⟩
    rw [if_neg unknown, if_pos serves]
    rfl

/-- With a clock that can be read, every report is dated. -/
theorem datedReport_of_clock (components : Components Stored Kept Engines) {now : Instant}
    {seconds : Nat} (clock : components.wallClock now = .ok seconds) (report : ErrorReport) :
    ∃ dated, components.datedReport now report = .ok dated := by
  rw [datedReport, clock]
  split
  · exact ⟨_, rfl⟩
  · exact ⟨_, rfl⟩

/-- Whatever was served can be reported, as long as its errors can be counted and the store and the
clock work: a report with the secret of the configuration is taken and counted. The one exception is
a gray code version without a name, which the choice resolves and the check of a report does not
know. -/
theorem reportError_of_served (backend : Store.Backend) {methods : List Store.Method}
    (components : Components backend.Contents Kept Engines)
    (store : components.store = backend.ops.failing methods)
    (writes : Store.Method.recordError ∉ methods)
    {world later : World backend.Contents Kept Engines} (valid : backend.Valid world.stored)
    (same : later.stored = world.stored) {configId : String} {request : ConfigRequest}
    (uncached : request.cached = false) {response : ConfigResponse}
    (served : ((components.serve configId request).perform world).1 = .ok response)
    (report : ErrorReport) {seconds : Nat}
    (clock : components.wallClock later.now = .ok seconds) :
    let deviceId := request.requestMeta.deviceId
    let codeId := response.codeId
    ∃ config code, components.IsVersion world.stored configId deviceId codeId config code ∧
      (config.secret ≠ "" → code.errorCount ≠ Store.greatestCount →
        let reported :=
          (components.reportError configId codeId (some config.secret) report).perform later
        let count := code.errorCount + 1
        if codeId = "" ∧ config.releasedCode ≠ "" then
          config.grayReleaseCode = "" ∧ isGrayHit config deviceId = true ∧
          reported = (.error (notCurrent configId codeId), later)
        else reported.1 = .ok ⟨codeId, count, components.settings.breakThreshold < count⟩) := by
  have found {id : String} {code : Code}
      (read : components.store.getCode world.stored id = .ok (some code)) :
      backend.ops.getCode world.stored id = .ok (some code) :=
    Store.RecordStoreOps.failing_getCode_eq_ok (store ▸ read)
  obtain ⟨config, code, version⟩ := components.exists_isVersion
    (fun read => backend.lawful.codeId_eq valid (found read)) uncached served
  refine ⟨config, code, version, fun secret countable => ?_⟩
  dsimp only
  have stands : components.IsVersion later.stored configId request.requestMeta.deviceId
      response.codeId config code := same ▸ version
  rw [reportError_eq, stands.reportDecision_eq secret]
  by_cases unknown : response.codeId = "" ∧ config.releasedCode ≠ ""
  · obtain ⟨unnamed, hit⟩ := (unknown.1 ▸ version.mayGet).of_empty unknown.2
    rw [if_pos unknown, if_pos unknown]
    exact ⟨unnamed, hit, rfl⟩
  · obtain ⟨dated, isDated⟩ := components.datedReport_of_clock clock report
    have counted := backend.recordError_of_countable valid (found version.found) countable dated
      components.settings.breakThreshold
    have works : components.store.recordError later.stored response.codeId dated
          components.settings.breakThreshold
        = backend.ops.recordError world.stored response.codeId dated
          components.settings.breakThreshold := by
      rw [store, Store.RecordStoreOps.failing_recordError _ writes, same]
    rw [if_neg unknown, if_neg unknown, isDated]
    dsimp only
    rw [recorded, works]
    generalize backend.ops.recordError world.stored response.codeId dated
      components.settings.breakThreshold = done at counted ⊢
    obtain ⟨answer, after⟩ := done
    dsimp only at counted
    subst counted
    have ownId := backend.lawful.codeId_eq valid (found version.found)
    simp only [Store.reported, ownId, version.works, Bool.false_or, Store.tripsBreaker]

end Components

/-! ## A rollout that names no gray code version -/

namespace UnnamedRollout

/-- A configuration that every device gets the gray code version of. -/
def config (gray : String) : Config :=
  { RaisedRollout.config with grayReleaseCode := gray, percentage := 100, secret := "key" }

/-- A code version without a name. -/
def unnamed : Code := { codeId := "", lang := "starlark", content := "return 3" }

/-- Code versions with and without a name in memory. -/
def stored (gray : String) : Store.MemoryStore where
  configs := ⟨[("app", config gray)]⟩
  codes := ⟨[("stable", BrokenRollout.stable), ("next", RaisedRollout.next), ("", unnamed)]⟩

/-- The components, on a store whose methods all work. -/
def components : Components Store.Backend.memory.Contents Unit Unit where
  store := Store.Backend.memory.ops.failing []
  records := none
  engines := BrokenRollout.echo
  wallClock now := .ok (now / 1000000)
  settings := {}

/-- What the components hold. -/
def world (gray : String) : World Store.Backend.memory.Contents Unit Unit :=
  ⟨stored gray, (), (), 5000000⟩

/-- A report without a time. -/
def report : ErrorReport := { message := "boom" }

theorem isIndexed_stored (gray : String) : (stored gray).IsIndexed where
  configs := by
    intro id config found
    simp only [stored, Table.find?, Table.findIn] at found
    split at found <;> cases found
    assumption
  codes := by
    intro id code found
    simp only [stored, Table.find?, Table.findIn] at found
    repeat' split at found
    all_goals cases found
    all_goals assumption

/-- Every device is served the gray code version. -/
theorem serve_gray {gray : String} {code : Code}
    (found : (stored gray).codes.find? gray = some code)
    (plain : code = unnamed ∨ code = RaisedRollout.next) :
    ((components.serve "app" {}).perform (world gray)).1 = .ok ⟨code.content, code.codeId⟩ := by
  have served := components.serve_uncached (world gray) "app" {} rfl
  have hit : isGrayHit (config gray) "" = true :=
    isGrayHit_of_hundred_le { config gray with percentage := 0 } (by decide) ""
  have works : code.isBroken = false := by rcases plain with rfl | rfl <;> rfl
  have decided : (Findings.inStore components.store (stored gray) "app").decision "app" {}
      = .ok ⟨config gray, code, .starlark, []⟩ := by
    have active : servedConfig "app"
        (Findings.inStore components.store (stored gray) "app").config = .ok (config gray) := rfl
    have isFound : (Findings.inStore components.store (stored gray) "app").gray (config gray)
        = .ok (some code) := congrArg Except.ok found
    rw [Findings.decision, active, ok_bind, chosenCode_of_usable _ _ _ hit isFound works]
    rcases plain with rfl | rfl <;> rfl
  rw [world, decided] at served
  exact served.2.2.2

/-- The gray code version takes a report if it has a name. -/
theorem reportError_of_served_named :
    ((components.serve "app" {}).perform (world "next")).1 = .ok ⟨"return 2", "next"⟩ ∧
    ((components.reportError "app" "next" (some "key") report).perform (world "next")).1
      = .ok ⟨"next", 1, false⟩ := by
  have served : ((components.serve "app" {}).perform (world "next")).1
      = .ok ⟨"return 2", "next"⟩ := serve_gray rfl (.inr rfl)
  refine ⟨served, ?_⟩
  have valid : Store.Backend.memory.Valid (world "next").stored := isIndexed_stored "next"
  obtain ⟨found, code, version, taken⟩ := components.reportError_of_served .memory rfl
    List.not_mem_nil valid rfl rfl served report rfl
  obtain rfl : config "next" = found := Option.some.inj (Except.ok.inj version.configured)
  obtain rfl : RaisedRollout.next = code := Option.some.inj (Except.ok.inj version.found)
  exact taken (by decide) (by decide)

/-- If it has none, it is served all the same, and the report is refused. -/
theorem reportError_refuses_unnamed :
    ((components.serve "app" {}).perform (world "")).1 = .ok ⟨"return 3", ""⟩ ∧
    (config "").secret = "key" ∧ unnamed.errorCount ≠ Store.greatestCount ∧
    (components.reportError "app" "" (some "key") report).perform (world "")
      = (.error (.input "code  is not a current version of config app"), world "") :=
  ⟨serve_gray rfl (.inl rfl), rfl, by decide, rfl⟩

end UnnamedRollout

end ConfigDelivery.Delivery
