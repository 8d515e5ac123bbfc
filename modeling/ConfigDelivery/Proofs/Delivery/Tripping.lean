import ConfigDelivery.Proofs.Delivery.Runs
import ConfigDelivery.Proofs.Store.Reliability
/-!
# The breaker trips once

The reports about a code version that callers may report are counted one by one, until the count is
above the threshold: then the code version is broken and takes no more. Its count, the mark that it
is broken and the history of reports stay in step over every series of operations, whatever else is
asked for and reported in between.
-/

namespace ConfigDelivery.Delivery

open ConfigDelivery.Store (greatestCount reported tripsBreaker)

variable {Stored Kept Engines : Type}

/-- An event that writes no record, but by a report. -/
def Event.WritesNothing : Event → Prop
  | .operation _ => True
  | .wait _ => True
  | _ => False

/-- A report about a code version: what it is dated to be, if the caller may report, and what it is
answered. -/
structure ReportCall where
  accepted : Option ErrorReport
  answer : Except DeliveryError ReportOutcome

namespace ReportCall

/-- The reports of the callers that may report. -/
def reports (calls : List ReportCall) : List ErrorReport := calls.filterMap accepted

/-- The answers to the callers that may report. -/
def answers (calls : List ReportCall) : List (Except DeliveryError ReportOutcome) :=
  (calls.filter fun call => call.accepted.isSome).map answer

@[simp] theorem reports_append (first second : List ReportCall) :
    reports (first ++ second) = reports first ++ reports second := List.filterMap_append

@[simp] theorem answers_append (first second : List ReportCall) :
    answers (first ++ second) = answers first ++ answers second := by
  simp [answers]

end ReportCall

/-- What a caller that may report is answered when a code version has some count of errors. -/
def breakerAnswer (threshold : UInt32) (codeId : String) (count : Nat) :
    Except DeliveryError ReportOutcome :=
  if count ≤ threshold.toNat then
    .ok ⟨codeId, UInt32.ofNat (count + 1), count = threshold.toNat⟩
  else .error (.forbidden "the code is already disabled due to errors")

/-- A code version with some count of errors, broken when that is above the threshold. -/
def standing (code : Code) (threshold : UInt32) (count : Nat) : Code :=
  { code with errorCount := UInt32.ofNat count, isBroken := threshold.toNat < count }

/-- A code version that works stands at its own count. -/
theorem standing_of_works {code : Code} {threshold : UInt32} (works : code.isBroken = false)
    (below : code.errorCount ≤ threshold) :
    standing code threshold code.errorCount.toNat = code := by
  have unbroken : ¬ threshold.toNat < code.errorCount.toNat :=
    Nat.not_lt.mpr (UInt32.le_iff_toNat_le.mp below)
  simp only [standing, UInt32.ofNat_toNat, unbroken, decide_false, ← works]

section Standing

variable {threshold : UInt32} {count : Nat}

/-- Below the greatest count, one more than the threshold is a count. -/
theorem toNat_add_one_of_bounded (bounded : threshold < greatestCount) :
    (threshold + 1).toNat = threshold.toNat + 1 ∧ threshold.toNat + 1 < UInt32.size := by
  have small := UInt32.lt_iff_toNat_lt.mp bounded
  simp only [greatestCount, UInt32.toNat_ofNat] at small
  rw [UInt32.toNat_add, UInt32.toNat_one, UInt32.size]
  omega

/-- A code version that stands at a count has that count. -/
theorem errorCount_standing (bounded : threshold < greatestCount)
    (within : count ≤ threshold.toNat + 1) (code : Code) :
    (standing code threshold count).errorCount.toNat = count := by
  have small := (toNat_add_one_of_bounded bounded).2
  exact UInt32.toNat_ofNat_of_lt' (Nat.lt_of_le_of_lt within small)

/-- A code version breaks at one more than the threshold. -/
theorem isBroken_standing_iff (bounded : threshold < greatestCount)
    (within : count ≤ threshold.toNat + 1) (code : Code) :
    (standing code threshold count).isBroken = true ↔
      (standing code threshold count).errorCount = threshold + 1 := by
  rw [← UInt32.toNat_inj, errorCount_standing bounded within,
    (toNat_add_one_of_bounded bounded).1]
  simp only [standing, decide_eq_true_eq]
  omega

/-- Up to the threshold the count is not at its greatest. -/
theorem errorCount_standing_ne (bounded : threshold < greatestCount)
    (below : count ≤ threshold.toNat) (code : Code) :
    (standing code threshold count).errorCount ≠ greatestCount := by
  intro same
  have counted := errorCount_standing bounded (Nat.le_succ_of_le below) code
  have small := UInt32.lt_iff_toNat_lt.mp bounded
  rw [same] at counted
  omega

/-- A report on a code version that works moves it to the next count. -/
theorem reported_standing (bounded : threshold < greatestCount) (below : count ≤ threshold.toNat)
    (code : Code) :
    reported (standing code threshold count) threshold = standing code threshold (count + 1) := by
  have counted : UInt32.ofNat count + 1 = UInt32.ofNat (count + 1) :=
    (UInt32.ofNat_add count 1).symm
  have works : ¬ threshold.toNat < count := Nat.not_lt.mpr below
  have next := errorCount_standing bounded (Nat.succ_le_succ below) code
  have trips : tripsBreaker (UInt32.ofNat (count + 1)) threshold
      = decide (threshold.toNat < count + 1) := by
    rw [tripsBreaker, decide_eq_decide, UInt32.lt_iff_toNat_lt]
    exact iff_of_eq (congrArg (threshold.toNat < ·) next)
  simp only [reported, standing, counted, works, decide_false, Bool.false_or, trips]

/-- The answers to the reports that are left until a code version is broken, and to the ones after
them. -/
theorem breakerAnswer_add {start : UInt32} (below : start ≤ threshold) (codeId : String)
    (place : Nat) :
    breakerAnswer threshold codeId (start.toNat + place) =
      if place < threshold.toNat + 1 - start.toNat then
        .ok ⟨codeId, start + UInt32.ofNat (place + 1),
          place + 1 = threshold.toNat + 1 - start.toNat⟩
      else .error (.forbidden "the code is already disabled due to errors") := by
  have belowNat := UInt32.le_iff_toNat_le.mp below
  have allowed : start.toNat + place ≤ threshold.toNat ↔
      place < threshold.toNat + 1 - start.toNat := by omega
  have last : start.toNat + place = threshold.toNat ↔
      place + 1 = threshold.toNat + 1 - start.toNat := by omega
  have counted : UInt32.ofNat (start.toNat + place + 1) = start + UInt32.ofNat (place + 1) := by
    rw [Nat.add_assoc, UInt32.ofNat_add, UInt32.ofNat_toNat]
  simp only [breakerAnswer, allowed, last, counted]

/-- Above the threshold all counts are answered alike. -/
theorem breakerAnswer_of_above {codeId : String} {other : Nat} (above : threshold.toNat < count)
    (above' : threshold.toNat < other) :
    breakerAnswer threshold codeId count = breakerAnswer threshold codeId other := by
  rw [breakerAnswer, breakerAnswer, if_neg (Nat.not_le.mpr above), if_neg (Nat.not_le.mpr above')]

end Standing

namespace Components

variable (components : Components Stored Kept Engines)

/-- The report of a caller that may report, with a time. One without a time of its own needs the
calendar clock, and is not accepted while that does not work. -/
def acceptedReport (world : World Stored Kept Engines) (configId codeId : String)
    (secret : Option String) (report : ErrorReport) : Option ErrorReport :=
  match components.store.getConfig world.stored configId with
  | .ok (some config) =>
    if MayReport config codeId secret then (components.datedReport world.now report).toOption
    else none
  | _ => none

/-- The report about a code version that an event is. -/
def call? (codeId : String) (world : World Stored Kept Engines) : Event → Option ReportCall
  | .operation (.reportError configId reportedId secret report) =>
    if reportedId = codeId then
      some {
        accepted := components.acceptedReport world configId codeId secret report
        answer := ((components.reportError configId codeId secret report).perform world).1 }
    else none
  | _ => none

/-- The reports about a code version in a series of events. -/
def calls (codeId : String) : World Stored Kept Engines → List Event → List ReportCall
  | _, [] => []
  | world, event :: rest =>
    (components.call? codeId world event).toList
      ++ calls codeId (components.step world event) rest

variable {components} {world after : World Stored Kept Engines}

/-- A report is accepted if its configuration lets the caller report, and it can be dated. -/
theorem acceptedReport_eq_some_iff {configId codeId : String} {secret : Option String}
    {report dated : ErrorReport} :
    components.acceptedReport world configId codeId secret report = some dated ↔
      (∃ config, components.store.getConfig world.stored configId = .ok (some config) ∧
        MayReport config codeId secret) ∧
      components.datedReport world.now report = .ok dated := by
  unfold acceptedReport
  rcases components.store.getConfig world.stored configId with failure | _ | config
  · simp
  · simp
  · by_cases may : MayReport config codeId secret
    · cases components.datedReport world.now report <;> simp [may, Except.toOption]
    · simp [may]

/-- A report that is not accepted is refused. -/
theorem reportDecision_of_unaccepted {configId codeId : String} {secret : Option String}
    {report : ErrorReport}
    (unaccepted : components.acceptedReport world configId codeId secret report = none) :
    ∃ refusal, components.reportDecision world configId codeId secret report = .error refusal := by
  cases decided : components.reportDecision world configId codeId secret report with
  | error refusal => exact ⟨refusal, rfl⟩
  | ok dated =>
    obtain ⟨config, _, isDated⟩ := components.reportDecision_eq_ok_iff.mp decided
    have accepted := acceptedReport_eq_some_iff.mpr ⟨config, isDated⟩
    cases unaccepted.symm.trans accepted

/-! ## One event -/

variable {Valid : Stored → Prop} {code : Code} {count : Nat} {history : List ErrorReport}

variable (components) in
/-- A code version stands at a count of errors, with a history of reports. -/
structure StandsAt (Valid : Stored → Prop) (code : Code) (count : Nat)
    (history : List ErrorReport) (world : World Stored Kept Engines) : Prop where
  valid : Valid world.stored
  found : components.store.getCode world.stored code.codeId
    = .ok (some (standing code components.settings.breakThreshold count))
  reports : components.store.errorReports world.stored code.codeId = .ok history
  within : count ≤ components.settings.breakThreshold.toNat + 1

/-- Where the store is the same, a code version stands where it stood. -/
theorem StandsAt.of_stored (stands : components.StandsAt Valid code count history world)
    (same : after.stored = world.stored) : components.StandsAt Valid code count history after where
  valid := same ▸ stands.valid
  found := same ▸ stands.found
  reports := same ▸ stands.reports
  within := stands.within

/-- A report about another code version leaves this one where it stands. -/
theorem StandsAt.reportError_other (reliable : components.store.Reliable Valid)
    (stands : components.StandsAt Valid code count history world) {otherId : String}
    (different : otherId ≠ code.codeId) (configId : String) (secret : Option String)
    (report : ErrorReport) :
    components.StandsAt Valid code count history
      ((components.reportError configId otherId secret report).perform world).2 := by
  rw [reportError_eq]
  cases components.reportDecision world configId otherId secret report with
  | error refusal => exact stands
  | ok dated =>
    obtain ⟨valid, same⟩ := reliable.recordError_sameBut otherId dated
      components.settings.breakThreshold stands.valid
    have recordedStored : (components.recorded world otherId dated).2.stored
        = (components.store.recordError world.stored otherId dated
          components.settings.breakThreshold).2 := by
      unfold recorded
      split <;> rename_i recorded <;> rw [recorded]
    refine ⟨?_, ?_, ?_, stands.within⟩
    · rw [recordedStored]
      exact valid
    · rw [recordedStored]
      exact (same.code (Ne.symm different)).trans stands.found
    · rw [recordedStored]
      exact (same.reports (Ne.symm different)).trans stands.reports

/-- The next report counts, as long as the code version works. -/
theorem StandsAt.reportError_counted (reliable : components.store.Reliable Valid)
    (bounded : components.settings.breakThreshold < greatestCount)
    (stands : components.StandsAt Valid code count history world) {configId : String}
    {secret : Option String} {report dated : ErrorReport}
    (accepted : components.acceptedReport world configId code.codeId secret report = some dated)
    (below : count ≤ components.settings.breakThreshold.toNat) :
    let (answer, after) := (components.reportError configId code.codeId secret report).perform world
    answer = breakerAnswer components.settings.breakThreshold code.codeId count ∧
    components.StandsAt Valid code (count + 1) (history ++ [dated]) after := by
  obtain ⟨configured, isDated⟩ := acceptedReport_eq_some_iff.mp accepted
  have works : (standing code components.settings.breakThreshold count).isBroken = false :=
    decide_eq_false (Nat.not_lt.mpr below)
  have countable :
      (standing code components.settings.breakThreshold count).errorCount ≠ greatestCount :=
    errorCount_standing_ne bounded below code
  have effect := reliable.recordError_found dated components.settings.breakThreshold stands.valid
    stands.found countable
  have decided := components.reportDecision_eq_ok_iff.mpr
    ⟨configured, ⟨_, stands.found, works⟩, isDated⟩
  rw [reported_standing bounded below] at effect
  rcases recorded : components.store.recordError world.stored code.codeId dated
    components.settings.breakThreshold with ⟨result, stored⟩
  rw [recorded] at effect
  obtain ⟨rfl, valid, shown⟩ := effect
  simp only [reportError_eq, decided, Components.recorded, recorded]
  refine ⟨?_, valid, ?_, ?_, Nat.succ_le_succ below⟩
  · have last : (components.settings.breakThreshold.toNat < count + 1)
        = (count = components.settings.breakThreshold.toNat) := by
      rw [eq_iff_iff]
      omega
    simp only [breakerAnswer, if_pos below, standing, last]
  · exact (congrFun (congrArg Store.View.code shown) _).trans (if_pos rfl)
  · refine (congrFun (congrArg Store.View.reports shown) code.codeId).trans ((if_pos rfl).trans ?_)
    exact congrArg (Except.map (· ++ [dated])) stands.reports

/-- Once the code version is broken, it takes no report. -/
theorem StandsAt.reportError_broken
    (stands : components.StandsAt Valid code count history world) {configId : String}
    {secret : Option String} {report dated : ErrorReport}
    (accepted : components.acceptedReport world configId code.codeId secret report = some dated)
    (above : components.settings.breakThreshold.toNat < count) :
    (components.reportError configId code.codeId secret report).perform world
      = (breakerAnswer components.settings.breakThreshold code.codeId count, world) := by
  obtain ⟨⟨config, configured, may⟩, _⟩ := acceptedReport_eq_some_iff.mp accepted
  have broken : (standing code components.settings.breakThreshold count).isBroken = true :=
    decide_eq_true above
  rw [reportError_eq, components.reportDecision_of_broken configured may stands.found broken,
    breakerAnswer, if_neg (Nat.not_le.mpr above)]
  rfl

/-! ## A series of events -/

variable {calls others : List ReportCall}

variable (components) in
/-- The reports about a code version that stood at a count of errors, with a history: those of the
callers that may report were counted as far as the count may go, and the others refused. -/
structure Tallied (Valid : Stored → Prop) (code : Code) (count : Nat)
    (history : List ErrorReport) (calls : List ReportCall) (after : World Stored Kept Engines) :
    Prop where
  answers : ReportCall.answers calls = (List.range (ReportCall.reports calls).length).map
    fun place => breakerAnswer components.settings.breakThreshold code.codeId (count + place)
  refused : ∀ call ∈ calls, call.accepted = none → ∃ refusal, call.answer = .error refusal
  stands :
    let taken := (ReportCall.reports calls).take
      (components.settings.breakThreshold.toNat + 1 - count)
    components.StandsAt Valid code (count + taken.length) (history ++ taken) after

/-- No calls leave the count where it was. -/
theorem tallied_nil (stands : components.StandsAt Valid code count history after) :
    components.Tallied Valid code count history [] after where
  answers := rfl
  refused := nofun
  stands := by simpa [ReportCall.reports] using stands

/-- A refused call leaves the count where it was. -/
theorem tallied_refused (stands : components.StandsAt Valid code count history after)
    (refusal : DeliveryError) :
    components.Tallied Valid code count history [⟨none, .error refusal⟩] after where
  answers := rfl
  refused call mem _ := by
    rw [List.mem_singleton.mp mem]
    exact ⟨refusal, rfl⟩
  stands := by simpa [ReportCall.reports] using stands

/-- An accepted report is answered by the count before it, and moves a code version that works. -/
theorem tallied_accepted {dated : ErrorReport} {answer : Except DeliveryError ReportOutcome}
    (answered : answer = breakerAnswer components.settings.breakThreshold code.codeId count)
    (stands :
      let taken := [dated].take (components.settings.breakThreshold.toNat + 1 - count)
      components.StandsAt Valid code (count + taken.length) (history ++ taken) after) :
    components.Tallied Valid code count history [⟨some dated, answer⟩] after where
  answers := by
    subst answered
    rfl
  refused call mem unaccepted := by
    rw [List.mem_singleton.mp mem] at unaccepted
    cases unaccepted
  stands := stands

/-- The tally of some reports goes on with that of the ones after them. -/
theorem Tallied.append {last : World Stored Kept Engines}
    (first : components.Tallied Valid code count history calls after)
    (second :
      let taken := (ReportCall.reports calls).take
        (components.settings.breakThreshold.toNat + 1 - count)
      components.Tallied Valid code (count + taken.length) (history ++ taken) others last) :
    components.Tallied Valid code count history (calls ++ others) last where
  answers := by
    rw [ReportCall.answers_append, first.answers, second.answers, ReportCall.reports_append,
      List.length_append, List.range_add, List.map_append, List.map_map]
    refine congrArg _ (List.map_congr_left fun place _ => ?_)
    rw [List.length_take]
    -- Reports that are past the allowance find the code version broken, at whatever count.
    by_cases counted : (ReportCall.reports calls).length
      ≤ components.settings.breakThreshold.toNat + 1 - count
    · rw [Nat.min_eq_right counted, Function.comp_apply, Nat.add_assoc]
    · dsimp only [Function.comp_apply]
      exact breakerAnswer_of_above (by omega) (by omega)
  refused call mem := by
    rcases List.mem_append.mp mem with mem | mem
    · exact first.refused call mem
    · exact second.refused call mem
  stands := by
    have stands := second.stands
    have left : components.settings.breakThreshold.toNat + 1 - (count
          + ((ReportCall.reports calls).take
            (components.settings.breakThreshold.toNat + 1 - count)).length)
        = components.settings.breakThreshold.toNat + 1 - count
          - (ReportCall.reports calls).length := by
      rw [List.length_take]
      omega
    dsimp only at stands ⊢
    rw [left, List.append_assoc, Nat.add_assoc, ← List.length_append, ← List.take_append,
      ← ReportCall.reports_append] at stands
    exact stands

/-- A report about the code version is counted, or it is refused. -/
theorem StandsAt.reportError (reliable : components.store.Reliable Valid)
    (bounded : components.settings.breakThreshold < greatestCount)
    (stands : components.StandsAt Valid code count history world) (configId : String)
    (secret : Option String) (report : ErrorReport) :
    let (answer, after) := (components.reportError configId code.codeId secret report).perform world
    components.Tallied Valid code count history
      [⟨components.acceptedReport world configId code.codeId secret report, answer⟩] after := by
  cases accepted : components.acceptedReport world configId code.codeId secret report with
  | none =>
    obtain ⟨refusal, decided⟩ := reportDecision_of_unaccepted accepted
    rw [reportError_eq, decided]
    exact tallied_refused stands refusal
  | some dated =>
    by_cases below : count ≤ components.settings.breakThreshold.toNat
    · have counted := stands.reportError_counted reliable bounded accepted below
      have taken : [dated].take (components.settings.breakThreshold.toNat + 1 - count) = [dated] :=
        List.take_of_length_le (Nat.le_sub_of_add_le' (Nat.succ_le_succ below))
      generalize (components.reportError configId code.codeId secret report).perform world = ended
        at counted ⊢
      refine tallied_accepted counted.1 ?_
      rw [taken]
      exact counted.2
    · rw [stands.reportError_broken accepted (Nat.not_le.mp below)]
      refine tallied_accepted rfl ?_
      rw [Nat.sub_eq_zero_of_le (Nat.not_le.mp below), List.take_zero]
      simpa using stands

/-- The tally of one event. -/
theorem StandsAt.step (reliable : components.store.Reliable Valid)
    (bounded : components.settings.breakThreshold < greatestCount)
    (stands : components.StandsAt Valid code count history world) {event : Event}
    (writesNothing : event.WritesNothing) :
    components.Tallied Valid code count history
      (components.call? code.codeId world event).toList (components.step world event) := by
  cases event with
  | operation operation =>
    cases operation with
    | getConfig configId request =>
      exact tallied_nil (stands.of_stored (components.serve_stored configId request world))
    | reportError configId reportedId secret report =>
      by_cases same : reportedId = code.codeId
      · subst same
        rw [call?, if_pos rfl]
        exact stands.reportError reliable bounded configId secret report
      · rw [call?, if_neg same]
        exact tallied_nil (stands.reportError_other reliable same configId secret report)
    | runTest testId secret =>
      exact tallied_nil (stands.of_stored (components.runTest_world testId secret world).same.1)
    | runPlayground language request =>
      exact tallied_nil
        (stands.of_stored (components.runPlayground_world language request world).same.1)
  | putConfig | putCode | putTestCase => exact writesNothing.elim
  | wait duration => exact tallied_nil (stands.of_stored rfl)

/-- The tally of a series of events. -/
theorem StandsAt.run (reliable : components.store.Reliable Valid)
    (bounded : components.settings.breakThreshold < greatestCount)
    (stands : components.StandsAt Valid code count history world) {events : List Event}
    (writeNothing : ∀ event ∈ events, event.WritesNothing) :
    components.Tallied Valid code count history (components.calls code.codeId world events)
      (components.run world events) := by
  induction events generalizing world count history with
  | nil => exact tallied_nil stands
  | cons event rest ih =>
    obtain ⟨writesNothing, restWriteNothing⟩ := List.forall_mem_cons.mp writeNothing
    have first := stands.step reliable bounded writesNothing
    exact first.append (ih first.stands restWriteNothing)

/-- A code version that works and may have so many errors takes reports from the callers that may
report, one by one and in their order, until it has one more error than the threshold. The last of
these reports breaks it, every other caller is refused, and nothing but its reports is counted. -/
theorem reports_break_once (components : Components Stored Kept Engines)
    (reliable : components.store.Reliable Valid)
    (bounded : components.settings.breakThreshold < greatestCount)
    (world : World Stored Kept Engines) (valid : Valid world.stored) (codeId : String)
    (code : Code) (history : List ErrorReport)
    (found : components.store.getCode world.stored codeId = .ok (some code))
    (reports : components.store.errorReports world.stored codeId = .ok history)
    (works : code.isBroken = false)
    (below : code.errorCount ≤ components.settings.breakThreshold)
    (events : List Event) (writeNothing : ∀ event ∈ events, event.WritesNothing) :
    let calls := components.calls codeId world events
    let accepted := ReportCall.reports calls
    let allowed := components.settings.breakThreshold.toNat + 1 - code.errorCount.toNat
    let after := (components.run world events).stored
    ReportCall.answers calls = (List.range accepted.length).map (fun place =>
      if place < allowed then
        .ok ⟨codeId, code.errorCount + UInt32.ofNat (place + 1), place + 1 = allowed⟩
      else .error (.forbidden "the code is already disabled due to errors")) ∧
    (∀ call ∈ calls, call.accepted = none → ∃ refusal, call.answer = .error refusal) ∧
    ∃ current, components.store.getCode after codeId = .ok (some current) ∧
      current.errorCount.toNat = code.errorCount.toNat + (accepted.take allowed).length ∧
      current.errorCount ≤ components.settings.breakThreshold + 1 ∧
      (current.isBroken = true ↔ current.errorCount = components.settings.breakThreshold + 1) ∧
      components.store.errorReports after codeId = .ok (history ++ accepted.take allowed) := by
  intro calls accepted allowed after
  obtain rfl := reliable.codeId_eq valid found
  have belowNat := UInt32.le_iff_toNat_le.mp below
  have initial : components.StandsAt Valid code code.errorCount.toNat history world := by
    refine ⟨valid, ?_, reports, Nat.le_succ_of_le belowNat⟩
    rw [standing_of_works works below]
    exact found
  have tallied := initial.run reliable bounded writeNothing
  have within := tallied.stands.within
  refine ⟨?_, tallied.refused, _, tallied.stands.found, errorCount_standing bounded within code, ?_,
    isBroken_standing_iff bounded within code, tallied.stands.reports⟩
  · rw [tallied.answers]
    exact List.map_congr_left fun place _ => breakerAnswer_add below code.codeId place
  · rw [UInt32.le_iff_toNat_le, errorCount_standing bounded within,
      (toNat_add_one_of_bounded bounded).1]
    exact within

end Components

/-! ## A code version that breaks among other reports -/

namespace MixedReports

/-- A configuration with two code versions out. -/
def config : Config :=
  { configId := "app", releasedCode := "first", grayReleaseCode := "second", status := "valid",
    secret := "key" }

/-- A code version. -/
def code (codeId : String) : Code := { codeId, lang := "starlark", content := "return 1" }

/-- The first code version has one error already. -/
def counted : Code := { code "first" with errorCount := 1 }

/-- The records in relational tables. -/
def stored : Store.Tables :=
  ((Store.Tables.empty.putCode counted).putCode (code "second")).putConfig config

theorem isReferenced_stored : stored.IsReferenced :=
  have written := (Store.Tables.isReferenced_empty.putCode counted).putCode (code "second")
  ⟨⟨written.distinct, written.givenOut⟩, written.referenced⟩

/-- The components: more than two errors break a code version. -/
def components : Components Store.Tables Cache.MemoryRecordCache Unit where
  store := Store.Tables.ops
  records := some Cache.MemoryRecordCache.ops
  engines := BrokenRollout.echo
  wallClock now := .ok (now / 1000000)
  settings := { breakThreshold := 2 }

/-- The records, and nothing kept. -/
def world : World Store.Tables Cache.MemoryRecordCache Unit := ⟨stored, {}, (), 0⟩

/-- Three reports of callers that may report among others: without the secret, about another code
version, and requests in between. -/
def events : List Event := [
  .operation (.reportError "app" "first" (some "key") { time := 7, message := "one" }),
  .operation (.reportError "app" "first" (some "guess") { time := 8 }),
  .operation (.getConfig "app" { cached := true }),
  .operation (.reportError "app" "second" (some "key") { time := 9 }),
  .wait (.ofSeconds 10),
  .operation (.reportError "app" "first" (some "key") { message := "two" }),
  .operation (.reportError "app" "first" (some "key") { time := 11, message := "three" })]

theorem reports_break_once_mixed :
    ReportCall.answers (components.calls "first" world events) = [
      .ok ⟨"first", 2, false⟩, .ok ⟨"first", 3, true⟩,
      .error (.forbidden "the code is already disabled due to errors")] ∧
    Store.Tables.ops.errorReports (components.run world events).stored "first"
      = .ok [⟨7, "one"⟩, ⟨10, "two"⟩] := by
  have found : Store.Tables.ops.getCode world.stored "first" = .ok (some counted) := by
    decide
  have noReports : Store.Tables.ops.errorReports world.stored "first" = .ok [] := by
    decide
  have writeNothing : ∀ event ∈ events, event.WritesNothing := by
    simp [events, Event.WritesNothing]
  have accepted : ReportCall.reports (components.calls "first" world events)
      = [⟨7, "one"⟩, ⟨10, "two"⟩, ⟨11, "three"⟩] := by decide
  obtain ⟨answers, _, current, _, _, _, _, reports⟩ := components.reports_break_once
    Store.Tables.reliable (by decide) world isReferenced_stored "first" counted [] found noReports
    rfl (by decide) events writeNothing
  rw [accepted] at answers reports
  exact ⟨answers.trans (by decide), reports.trans (by decide +kernel)⟩

end MixedReports

end ConfigDelivery.Delivery
