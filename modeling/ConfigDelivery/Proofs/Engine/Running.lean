import ConfigDelivery.Engine.Basic
import ConfigDelivery.Proofs.Cache.Programs
import ConfigDelivery.Proofs.Pool.Sequential
/-!
# What engines answer

Between two runs the workers of every language are at rest. A run starts when its worker is free,
gets its program from the cache at that moment, and answers what the program comes to within the
time limit: a verdict that depends on what the compiler answered and on the parameters alone.
-/

namespace ConfigDelivery.Engine

open ConfigDelivery.Cache (ProgramCache ProgramEntry)
open ConfigDelivery.Pool (Job Schedule Startup WorkerPool)
open ConfigDelivery.Script

namespace Interpreter

variable {Program : Type} (interpreter : Interpreter Program)

/-- What the caller of a job is answered when its program, or what is wrong with it, is known. -/
def verdict (timeout : Duration) (compiled : Except ScriptError Program) (params : String) :
    Except ScriptError String :=
  let activity :=
    match compiled with
    | .ok program => interpreter.activity timeout program params
    | .error error => interpreter.atOnce (.error error)
  activity.answer timeout

/-- An interpreter takes some time for everything, and never waits to be released. -/
theorem guest_isTimely (timeout : Duration) : (interpreter.guest timeout).IsTimely := by
  have paces (compiled : Except ScriptError Program) (params : String) :
      let activity :=
        match compiled with
        | .ok program => interpreter.activity timeout program params
        | .error error => interpreter.atOnce (.error error)
      activity.pace = .untilInterrupted ∨
        ∃ duration stoppable, activity.pace = .taking duration stoppable ∧ 0 < duration := by
    have positive : 0 < overhead := by decide
    have positive' : 0 < overrun := by decide
    dsimp only
    cases compiled with
    | error error => exact .inr ⟨_, _, rfl, positive⟩
    | ok program =>
      dsimp only [activity]
      split
      · exact .inr ⟨_, _, rfl, Nat.lt_of_lt_of_le positive (Nat.le_add_right ..)⟩
      · dsimp only
        by_cases stoppable : interpreter.isStoppable = true
        · rw [if_pos stoppable]
          exact .inl rfl
        · rw [if_neg stoppable]
          exact .inr ⟨_, _, rfl, Nat.lt_of_lt_of_le positive' (Nat.le_add_left ..)⟩
  refine ⟨fun _ => nofun, ?_, ?_⟩
  · intro cache job now duration stoppable pace
    rcases paces (cache.getOrCompile job.cacheId now fun _ =>
      interpreter.compile job.cacheId job.source).outcome job.params with
      endless | ⟨duration', stoppable', pace', positive⟩
    · cases endless.symm.trans pace
    · cases pace'.symm.trans pace
      exact positive
  · intro cache job now pace
    rcases paces (cache.getOrCompile job.cacheId now fun _ =>
      interpreter.compile job.cacheId job.source).outcome job.params with
      endless | ⟨duration, stoppable, pace', _⟩
    · cases endless.symm.trans pace
    · cases pace'.symm.trans pace

end Interpreter

namespace Engines

variable {interpreters : Interpreters}

/-- The workers of all languages are at rest, and have the time limit of the engines. -/
structure IsResting (engines : Engines interpreters) : Prop where
  workers : ∀ language, (engines.workers language).IsResting
  timeout : ∀ language, (engines.workers language).pool.timeout = engines.timeout

/-- When a script of a language starts that is asked for now. -/
def startsAt (engines : Engines interpreters) (now : Instant) (language : Language) : Instant :=
  (engines.workersAt now language).freeAt

/-- What asking for the program of a script comes to when the script starts. -/
def asked (engines : Engines interpreters) (now : Instant) (request : Request) :
    Cache.Compiled (interpreters.Program request.language) ScriptError :=
  (engines.programs request.language).getOrCompile request.cacheId
    (engines.startsAt now request.language) fun _ =>
      (interpreters.of request.language).compile request.cacheId request.source

/-- A run of a script that comes to what the compiler answers, or answered before. -/
structure Ran (engines : Engines interpreters) (now : Instant) (request : Request)
    (response : Response (Engines interpreters))
    (compiled : Except ScriptError (interpreters.Program request.language)) : Prop where
  resting : response.state.IsResting
  timeout : response.state.timeout = engines.timeout
  outcome : response.outcome
    = (interpreters.of request.language).verdict engines.timeout compiled request.params
  obtained : (engines.programs request.language).Obtained request.cacheId
    (engines.startsAt now request.language)
    (fun _ => (interpreters.of request.language).compile request.cacheId request.source) compiled
    (response.state.programs request.language)
  others : ∀ {language}, request.language ≠ language →
    response.state.programs language = engines.programs language
  starts : now ≤ engines.startsAt now request.language
  ends : engines.startsAt now request.language ≤ response.now

theorem programs_set_same (engines : Engines interpreters) (language : Language)
    (workers : Workers interpreters language) :
    (engines.set language workers).programs language = workers.pool.shared := by
  rw [programs, workers_set_same]

/-- Engines at rest are so after every run. -/
theorem IsResting.run {engines : Engines interpreters} (resting : engines.IsResting) (now : Instant)
    (request : Request) :
    ∃ compiled, Ran engines now request (engines.run now request) compiled := by
  have timely : (engines.guest request.language).IsTimely :=
    (interpreters.of request.language).guest_isTimely engines.timeout
  obtain ⟨waited, shared, timeout, later⟩ :=
    (resting.workers request.language).advance timely now
  obtain ⟨after, ran, rests, programs, limit, ends⟩ :=
    waited.run timely ⟨request.cacheId, request.source, request.params⟩
  have sameLimit := timeout.trans (resting.timeout request.language)
  have response : engines.run now request
      = ⟨(interpreters.of request.language).verdict engines.timeout
          (engines.asked now request).outcome request.params,
          engines.set request.language after, after.now⟩ := by
    rw [Engines.run, workersAt]
    dsimp only
    rw [ran, sameLimit, shared]
    rfl
  rw [response]
  refine ⟨(engines.asked now request).outcome, ⟨fun language => ?_, fun language => ?_⟩, rfl, rfl,
    ?_, ?_, ?_, ends⟩
  · by_cases same : request.language = language
    · subst same
      rw [workers_set_same]
      exact rests
    · rw [workers_set_of_ne _ _ same]
      exact resting.workers language
  · by_cases same : request.language = language
    · subst same
      rw [workers_set_same]
      exact limit.trans sameLimit
    · rw [workers_set_of_ne _ _ same]
      exact resting.timeout language
  · dsimp only
    rw [programs_set_same, programs, shared]
    exact ProgramCache.getOrCompile_obtained ..
  · intro language different
    dsimp only
    rw [Engines.programs, workers_set_of_ne _ _ different, Engines.programs]
  · rw [startsAt]
    refine Nat.le_trans ?_ (Schedule.now_le_freeAt _)
    rw [workersAt, later]
    exact Nat.le_max_right ..

/-- A program that a script leaves behind: under its identifier, with the time of its start. -/
inductive Inserted (engines : Engines interpreters) (now : Instant) (request : Request) :
    (language : Language) → String → ProgramEntry (interpreters.Program language) → Prop where
  | inserted {entry : ProgramEntry (interpreters.Program request.language)}
      (isNamed : request.cacheId ≠ "")
      (compiles : (interpreters.of request.language).compile request.cacheId request.source
        = .ok entry.program)
      (insertedAt : entry.insertedAt = engines.startsAt now request.language) :
      Inserted engines now request request.language request.cacheId entry

/-- A program after a run is an old one, or the one that the script left behind. -/
theorem Ran.find? {engines : Engines interpreters} {now : Instant} {request : Request}
    {response : Response (Engines interpreters)}
    {compiled : Except ScriptError (interpreters.Program request.language)}
    (ran : engines.Ran now request response compiled) {language : Language} {id : String}
    {entry : ProgramEntry (interpreters.Program language)}
    (found : (response.state.programs language).entries.find? id = some entry) :
    (engines.programs language).entries.find? id = some entry ∨
      Inserted engines now request language id entry := by
  by_cases same : request.language = language
  · subst same
    rcases ran.obtained.find? found with old | ⟨isNamed, rfl, insertedAt, compiles⟩
    · exact .inl old
    · exact .inr (.inserted isNamed compiles insertedAt)
  · rw [ran.others same] at found
    exact .inl found

/-- A run leaves the time to live of kept programs as it is. -/
theorem Ran.timeToLive {engines : Engines interpreters} {now : Instant} {request : Request}
    {response : Response (Engines interpreters)}
    {compiled : Except ScriptError (interpreters.Program request.language)}
    (ran : engines.Ran now request response compiled) (language : Language) :
    (response.state.programs language).timeToLive = (engines.programs language).timeToLive := by
  by_cases same : request.language = language
  · subst same
    exact ran.obtained.timeToLive_eq
  · rw [ran.others same]

/-- Workers that have just started rest, with the settings they were started with. -/
theorem start_isResting {settings : Settings} {now : Instant} {language : Language}
    {workers : Workers interpreters language}
    (started : start interpreters settings now language = .ok workers) :
    workers.IsResting ∧ workers.pool.timeout = settings.timeout ∧
    workers.pool.shared = .new settings.cacheTimeToLive settings.cacheMaxEntries := by
  unfold start at started
  cases built : WorkerPool.new language.name settings.poolSize settings.timeout
      (ProgramCache.new settings.cacheTimeToLive settings.cacheMaxEntries)
      (fun _ => Startup.ready ()) with
  | error failure =>
    dsimp only at started
    rw [built] at started
    cases started
  | ok pool =>
    obtain ⟨resting, shared, timeout⟩ := Schedule.isResting_new built now
    dsimp only at started
    rw [built] at started
    cases started
    exact ⟨resting, timeout, shared⟩

/-- New engines are at rest, have the time limit of the settings, and have no programs. -/
theorem isResting_new {settings : Settings} {now : Instant} {engines : Engines interpreters}
    (built : new interpreters settings now = .ok engines) :
    engines.IsResting ∧ engines.timeout = settings.timeout ∧ ∀ language,
      engines.programs language = .new settings.cacheTimeToLive settings.cacheMaxEntries := by
  unfold new at built
  cases javascript : start interpreters settings now .javascript with
  | error failure =>
    rw [javascript] at built
    cases built
  | ok javascript' =>
    cases starlark : start interpreters settings now .starlark with
    | error failure =>
      rw [javascript, starlark] at built
      cases built
    | ok starlark' =>
      rw [javascript, starlark] at built
      cases built
      have first := start_isResting javascript
      have second := start_isResting starlark
      refine ⟨⟨fun language => ?_, fun language => ?_⟩, rfl, fun language => ?_⟩
      · cases language
        · exact first.1
        · exact second.1
      · cases language
        · exact first.2.1
        · exact second.2.1
      · cases language
        · exact first.2.2
        · exact second.2.2

variable (interpreters) in
/-- New engines with one worker for each language. -/
def single : Engines interpreters := (new interpreters { poolSize := 1 } 0).toOption.get rfl

theorem new_single : new interpreters { poolSize := 1 } 0 = .ok (single interpreters) := rfl

theorem isResting_single : (single interpreters).IsResting := (isResting_new new_single).1

end Engines

/-! ## The identifier of a script does not matter -/

/-- Two runs give the same text, or both fail. -/
inductive Agree : Except ScriptError String → Except ScriptError String → Prop where
  | text (text : String) : Agree (.ok text) (.ok text)
  | failure (error other : ScriptError) : Agree (.error error) (.error other)

theorem agree_refl (outcome : Except ScriptError String) : Agree outcome outcome := by
  cases outcome with
  | error error => exact .failure ..
  | ok text => exact .text text

theorem Agree.symm {outcome other : Except ScriptError String} (agree : Agree outcome other) :
    Agree other outcome := by
  cases agree with
  | text text => exact .text text
  | failure error other => exact .failure ..

theorem Agree.trans {first second third : Except ScriptError String}
    (left : Agree first second) (right : Agree second third) : Agree first third := by
  cases left with
  | text text => exact right
  | failure error other =>
    cases right with
    | failure => exact .failure ..

/-- Under whatever identifier a source is compiled, it comes to the same. -/
def Interpreters.IgnoreIds (interpreters : Interpreters) : Prop :=
  ∀ (language : Language) (timeout : Duration) (cacheId other source params : String),
    Agree
      ((interpreters.of language).verdict timeout
        ((interpreters.of language).compile cacheId source) params)
      ((interpreters.of language).verdict timeout
        ((interpreters.of language).compile other source) params)

variable {interpreters : Interpreters}

/-- Where the entry of its identifier holds what its source compiles to, a script has the verdict on
its source. -/
theorem Engines.Ran.agrees (ignore : interpreters.IgnoreIds) {engines : Engines interpreters}
    {now : Instant} {request : Request} {response : Response (Engines interpreters)}
    {compiled : Except ScriptError (interpreters.Program request.language)}
    (ran : engines.Ran now request response compiled)
    (current : ∀ {entry},
      (engines.programs request.language).entries.find? request.cacheId = some entry →
      (interpreters.of request.language).compile request.cacheId request.source
        = .ok entry.program)
    (other : String) :
    Agree response.outcome ((interpreters.of request.language).verdict engines.timeout
      ((interpreters.of request.language).compile other request.source) request.params) := by
  rw [ran.outcome, ran.obtained.eq_compile current]
  exact ignore ..

/-! ## Scripts without an identifier -/

/-- What a script comes to that goes by no identifier. -/
def Interpreters.scriptVerdict (interpreters : Interpreters) (language : Language)
    (timeout : Duration) (source params : String) : Except ScriptError String :=
  (interpreters.of language).verdict timeout ((interpreters.of language).compile "" source) params

/-- No program is kept for a script without an identifier, and none is looked up. -/
theorem Engines.IsResting.run_unnamed {engines : Engines interpreters} (rests : engines.IsResting)
    (now : Instant) (language : Language) (source params : String) :
    (engines.run now ⟨language, "", source, params⟩).outcome
      = interpreters.scriptVerdict language engines.timeout source params := by
  obtain ⟨compiled, ran⟩ := rests.run now ⟨language, "", source, params⟩
  rcases ran.obtained.eq_or_fresh with fromSource | ⟨_, isNamed, _⟩
  · rw [ran.outcome, fromSource]
    rfl
  · exact absurd rfl isNamed

end ConfigDelivery.Engine
