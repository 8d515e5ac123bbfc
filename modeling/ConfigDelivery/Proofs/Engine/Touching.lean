import ConfigDelivery.Proofs.Cache.Footprint
import ConfigDelivery.Proofs.Engine.Running
import ConfigDelivery.Proofs.Pool.Sharing
/-!
# What a script touches of the kept programs

While a caller waits for a script, the programs of other languages stay as they are, and those of
its own language are touched at the identifier of the script and at those of jobs that other callers
left waiting, each of them once at most.
-/

namespace ConfigDelivery.Engine

open ConfigDelivery.Cache (ProgramCache)
open ConfigDelivery.Pool (Job Schedule Serves Slot)
open ConfigDelivery.Script (Language)

/-- The identifiers under which jobs may keep their programs. -/
def cacheIds (jobs : List Job) : List String :=
  (jobs.map Job.cacheId).filter fun id => id ≠ ""

theorem cacheIds_append (jobs more : List Job) :
    cacheIds (jobs ++ more) = cacheIds jobs ++ cacheIds more := by
  simp [cacheIds]

/-- Fewer jobs have fewer identifiers. -/
theorem cacheIds_subperm {jobs more : List Job} (fewer : jobs.Subperm more) :
    (cacheIds jobs).Subperm (cacheIds more) := by
  obtain ⟨part, same, sublist⟩ := fewer
  exact ⟨cacheIds part, (same.map Job.cacheId).filter _, (sublist.map Job.cacheId).filter _⟩

/-- Jobs that are executed touch the programs at their identifiers. -/
theorem Interpreter.touchesAll_of_serves {Program : Type} (interpreter : Interpreter Program)
    (timeout : Duration) {maxEntries : Nat} {before after : ProgramCache Program}
    {jobs : List Job} (serves : Serves (interpreter.guest timeout) before jobs after)
    (shows : before.ShowsNamed maxEntries) :
    before.TouchesAll (cacheIds jobs) after ∧ after.ShowsNamed maxEntries := by
  induction serves with
  | none => exact ⟨.none, shows⟩
  | @next before jobs after job memory now rest ih =>
    by_cases unnamed : job.cacheId = ""
    · have same : (((interpreter.guest timeout).execute before memory job now).2) = before := by
        change (before.getOrCompile job.cacheId now _).cache = before
        rw [unnamed, ProgramCache.getOrCompile_unnamed]
      have ids : cacheIds (job :: jobs) = cacheIds jobs := by simp [cacheIds, unnamed]
      rw [same] at ih
      rw [ids]
      exact ih shows
    · obtain ⟨touches, shows⟩ := shows.getOrCompile unnamed now
        fun _ => interpreter.compile job.cacheId job.source
      have ids : cacheIds (job :: jobs) = job.cacheId :: cacheIds jobs := by
        simp [cacheIds, unnamed]
      rw [ids]
      exact ⟨.next touches (ih shows).1, (ih shows).2⟩

/-- The identifier at which a request touches the programs of a language. -/
def Request.own (request : Request) (language : Language) : Option String :=
  if request.language = language ∧ request.cacheId ≠ "" then some request.cacheId else none

/-- A request asks for its own identifier in its own language. -/
theorem cacheIds_own (request : Request) :
    cacheIds [⟨request.cacheId, request.source, request.params⟩]
      = (request.own request.language).toList := by
  by_cases unnamed : request.cacheId = "" <;> simp [cacheIds, Request.own, unnamed]

namespace Engines

variable {interpreters : Interpreters}

/-- The programs of every language are in order. -/
def IsCoherent (engines : Engines interpreters) : Prop :=
  ∀ language, ∃ maxEntries, (engines.programs language).ShowsNamed maxEntries

/-- The identifiers of the jobs of a language that wait. -/
def waiting (engines : Engines interpreters) (language : Language) : List String :=
  cacheIds (engines.workers language).pool.waiting

/-- No job waits that may keep a program. -/
def IsQuiet (engines : Engines interpreters) : Prop := ∀ language, engines.waiting language = []

/-- The programs of every language are touched at an own identifier, if there is one, and at those
of jobs that waited, each of them once at most. -/
def Touches (engines : Engines interpreters) (own : Language → Option String)
    (after : Engines interpreters) : Prop :=
  ∀ language, ∃ ids, (engines.programs language).TouchesAll ids (after.programs language) ∧
    (ids ++ after.waiting language).Subperm
      ((own language).toList ++ engines.waiting language)

theorem touches_refl (engines : Engines interpreters) (own : Language → Option String) :
    engines.Touches own engines :=
  fun _ => ⟨[], .none, (List.sublist_append_right ..).subperm⟩

theorem touches_of_eq {engines after : Engines interpreters} (same : after = engines)
    (own : Language → Option String) : engines.Touches own after :=
  same ▸ engines.touches_refl own

/-- What is touched at one own identifier alone. -/
def TouchesOnly (engines : Engines interpreters) (own : Language → Option String)
    (after : Engines interpreters) : Prop :=
  ∀ language,
    match own language with
    | none => after.programs language = engines.programs language
    | some id => (engines.programs language).Touches id (after.programs language)

variable {engines after : Engines interpreters} {own : Language → Option String}

/-- If no job waits, only the own identifier is touched. -/
theorem Touches.of_isQuiet (touches : engines.Touches own after) (quiet : engines.IsQuiet) :
    engines.TouchesOnly own after := by
  intro language
  obtain ⟨ids, touched, fewer⟩ := touches language
  rw [quiet language, List.append_nil] at fewer
  have few := (List.sublist_append_left ids (after.waiting language)).subperm.trans fewer
  cases isOwn : own language with
  | none =>
    rw [isOwn] at few
    obtain rfl : ids = [] := List.subperm_nil.mp few
    exact touched.eq_of_nil
  | some id =>
    rw [isOwn] at few
    rcases List.subperm_singleton_iff.mp few with rfl | rfl
    · exact touched.eq_of_nil ▸ .nothing
    · exact touched.of_singleton

/-- Engines at rest have no jobs that wait. -/
theorem IsResting.isQuiet (resting : engines.IsResting) : engines.IsQuiet := by
  intro language
  have none : (engines.workers language).pool.waiting = [] := by
    refine List.flatMap_eq_nil_iff.mpr fun slot present => ?_
    obtain ⟨index, found⟩ := List.mem_iff_getElem?.mp present
    rw [Slot.waiting, ((resting.workers language).calm found).queue, List.map_nil]
  rw [waiting, none]
  rfl

/-- Workers that rest do so again after a run. -/
theorem IsResting.state_run (resting : engines.IsResting) (now : Instant) (request : Request) :
    (engines.run now request).state.IsResting := by
  obtain ⟨compiled, ran⟩ := resting.run now request
  exact ran.resting

/-- New workers have coherent caches. -/
theorem isCoherent_new {settings : Settings} {now : Instant}
    (built : new interpreters settings now = .ok engines) : engines.IsCoherent := by
  intro language
  rw [(isResting_new built).2.2 language]
  exact ⟨_, ProgramCache.showsNamed_new ..⟩

/-- When the workers of a language go on, its programs are touched at the identifiers of jobs that
waited or were offered, and those of the other languages stay. -/
theorem IsCoherent.set (coherent : engines.IsCoherent) {language : Language}
    {workers : Workers interpreters language} {offered : List Job}
    (goesOn : (engines.workers language).pool.GoesOn (engines.guest language) offered workers.pool)
    (isOwn : cacheIds offered = (own language).toList) :
    (engines.set language workers).IsCoherent ∧
      engines.Touches own (engines.set language workers) := by
  obtain ⟨jobs, served, fewer⟩ := goesOn
  obtain ⟨maxEntries, shows⟩ := coherent language
  obtain ⟨touched, shows⟩ :=
    (interpreters.of language).touchesAll_of_serves engines.timeout served shows
  -- Executed and waiting jobs together are among those that were offered or waited.
  have fewerIds := cacheIds_subperm fewer
  rw [cacheIds_append, cacheIds_append, isOwn] at fewerIds
  refine ⟨fun other => ?_, fun other => ?_⟩
  · by_cases same : language = other
    · subst same
      rw [programs_set_same]
      exact ⟨maxEntries, shows⟩
    · rw [programs, workers_set_of_ne _ _ same]
      exact coherent other
  · by_cases same : language = other
    · subst same
      rw [programs_set_same, waiting, workers_set_same]
      exact ⟨cacheIds jobs, touched, fewerIds⟩
    · simp only [programs, waiting, workers_set_of_ne _ _ same]
      exact engines.touches_refl own other

/-- A run of a script touches the programs of its language at its own identifier and at those of
jobs that waited before, and leaves them in order. -/
theorem IsCoherent.run (coherent : engines.IsCoherent) (now : Instant) (request : Request) :
    (engines.run now request).state.IsCoherent ∧
      engines.Touches request.own (engines.run now request).state := by
  have waited := Schedule.advance_goesOn (engines.guest request.language)
    (engines.workers request.language) now
  have ran := Schedule.run_goesOn (engines.guest request.language)
    (engines.workersAt now request.language) ⟨request.cacheId, request.source, request.params⟩
  have both := coherent.set (waited.trans ran) (cacheIds_own request)
  unfold Engines.run
  exact both

end Engines

end ConfigDelivery.Engine
