import RestartCheck.Run.Coordinator
import RestartCheck.Proofs.Effect.Runs
import RestartCheck.Proofs.Json.Reading
import RestartCheck.Proofs.Version.Writing

/-!
# The visits of a run

A run visits its scenarios in declared order.  A visit either finds the scenario inapplicable or
invokes its half for the phase of the run, once.  The first invocation that ends with the service
out of reach is the last visit; the scenarios behind it are not reached.

A visit ends in a result, which tells how its half failed.  Where this failure cannot be told, or
where it cannot be judged whether the scenario is applicable, there is no result and no report: the
run is broken off.

**Results.**
* `Failure.message_eq_error_iff`: which failures cannot be told.
* `Visit.exists_result_eq_error_iff`: which visits break a run off.
* `runs_runOne_iff`: what one visit does.
* `runs_runAll_iff`: the runs over a list of scenarios, by induction on the list.
* `runs_run_iff_account`: what the runs of a whole phase come to, and the report they end in.
* `unreported_in_failing`: runs that end without a report.
-/

namespace RestartCheck

namespace Failure

/-- How it cannot be told how a failure is worded. -/
def IsUntold (failure : Failure) : Prop :=
  ∃ name cause, failure = .defect (.untold name cause)

theorem message_eq_error_iff
    {failure other : Failure} :
    failure.message = .error other ↔
      ∃ name cause, failure = .defect (.untold name cause) ∧ other = .defect cause := by
  cases failure with
  | defect cause => cases cause <;> simp [message, eq_comm]
  | _ => simp [message]

theorem exists_message_iff
    {failure : Failure} :
    (∃ text, failure.message = .ok text) ↔ ¬failure.IsUntold := by
  cases hmessage : failure.message with
  | ok text =>
      refine iff_of_true ⟨text, rfl⟩ ?_
      rintro ⟨name, cause, rfl⟩
      cases hmessage
  | error other =>
      obtain ⟨name, cause, rfl, _⟩ := message_eq_error_iff.mp hmessage
      exact iff_of_false (by simp) (not_not_intro ⟨name, cause, rfl⟩)

end Failure

/-- The scenario judges itself applicable to a version. -/
def Scenario.isApplicable
    (scenario : Scenario)
    (version : Version) : Bool :=
  match scenario.appliesTo version with
  | .ok applicable => applicable
  | .error _ => false

namespace Coordinator

open RestartCheck.Action

/-! ## Visits -/

/-- One run of the half of a scenario. -/
structure Invocation where
  events : List Event
  outcome : Except Failure Unit
  after : Session

/-- What becomes of a scenario that a run reaches. -/
inductive Course
  /-- It cannot be judged whether the scenario is applicable. -/
  | unjudged (failure : Failure)
  /-- The scenario is inapplicable. -/
  | skipped
  /-- Its half is invoked. -/
  | invoked (invocation : Invocation)

/-- A scenario that a run reaches, the memory it finds, and what becomes of it. -/
structure Visit where
  scenario : Scenario
  before : Session
  course : Course

/-- The log entry about how a half ended. -/
def concludingNote
    (session : Session)
    (scenario : Scenario) :
    Except Failure Unit → Event
  | .ok () => noted session .info "scenario_passed"
  | .error (.unsupported message capability version) =>
      noted session .info "scenario_unsupported"
        [("status", .json (.string
           (failedStatus scenario (.unsupported message capability version)).text)),
         ("reason", .json (.string message))]
  | .error (.unreachable message) =>
      noted session .error "scenario_aborted_unreachable" [("error", .json (.string message))]
  | .error (.defect cause) =>
      noted session .error "scenario_crashed"
        [("error_type", .json (.string (Failure.defect cause).kindName)),
         ("exc_info", .json (.bool true))]
  | .error failure =>
      noted session .error "scenario_failed"
        [("error_type", .json (.string failure.kindName)),
         ("error", .json (.string (failure.message.toOption.getD "")))]

/-- The status of a scenario that a run reaches, given the outcome of its half if it was invoked. -/
def statusOf
    (scenario : Scenario) :
    Option (Except Failure Unit) → ScenarioStatus
  | none => .skipped
  | some (.ok ()) => .passed
  | some (.error (.unsupported _ _ _)) => if scenario.skipOnUnsupported then .skipped else .failed
  | some (.error _) => .failed

/-- Why a scenario that a run reaches did not pass, or the failure to tell it. -/
def reasonOf
    (config : RunConfig) :
    Option (Except Failure Unit) → Except Failure (Option String)
  | none => .ok (some ("not applicable to " ++ config.oldVersion.spelling))
  | some (.ok ()) => .ok none
  | some (.error failure) => failure.message.map some

/-- The kind of the failure with which a half ended. -/
def kindOf : Option (Except Failure Unit) → Option String
  | some (.error failure) => some failure.kindName
  | _ => none

/-- The message with which a half found the service out of reach. -/
def abortOf : Option (Except Failure Unit) → Option String
  | some (.error (.unreachable message)) => some message
  | _ => none

/-- The result of a scenario that a run reaches. -/
def resultOf
    (config : RunConfig)
    (scenario : Scenario)
    (outcome : Option (Except Failure Unit)) : Except Failure ScenarioResult :=
  (reasonOf config outcome).map fun reason =>
    { name := scenario.name
      status := statusOf scenario outcome
      reason := reason
      failureKind := kindOf outcome }

namespace Visit

/-- The memory while the half runs. -/
def bound
    (visit : Visit)
    (config : RunConfig) : Session :=
  bindContext visit.before (contextOf config visit.scenario)

/-- The memory that the visit leaves. -/
def after (visit : Visit) : Session :=
  match visit.course with
  | .invoked invocation => restoreContext invocation.after visit.before
  | _ => visit.before

/-- The invocation is a run of the half for the phase: of the first one before the upgrade, and of
the second one after it. -/
structure RunsHalf
    (visit : Visit)
    (harness : Harness)
    (config : RunConfig)
    (invocation : Invocation) : Prop where
  preUpgrade : config.phase = .preUpgrade →
    (visit.scenario.preUpgrade ⟨config, harness, visit.scenario.toDeclaration⟩).Runs
      (visit.bound config) invocation.events invocation.outcome invocation.after
  postUpgrade : config.phase = .postUpgrade →
    (visit.scenario.postUpgrade ⟨config, harness, visit.scenario.toDeclaration⟩).Runs
      (visit.bound config) invocation.events invocation.outcome invocation.after

/-- The scenario is judged as it judges itself, and the half is invoked exactly when the scenario is
applicable. -/
def IsSound
    (visit : Visit)
    (harness : Harness)
    (config : RunConfig) : Prop :=
  match visit.course with
  | .unjudged failure => visit.scenario.appliesTo config.oldVersion = .error failure
  | .skipped => visit.scenario.appliesTo config.oldVersion = .ok false
  | .invoked invocation =>
      visit.scenario.appliesTo config.oldVersion = .ok true ∧
      visit.RunsHalf harness config invocation

def events
    (visit : Visit)
    (config : RunConfig) : List Event :=
  match visit.course with
  | .unjudged _ => []
  | .skipped =>
      [noted visit.before .info "scenario_skipped"
        [("scenario", .json (.string visit.scenario.name)),
         ("reason", .json (.string "not applicable"))]]
  | .invoked invocation =>
      noted (visit.bound config) .info "scenario_started" ::
        (invocation.events ++
          [concludingNote invocation.after visit.scenario invocation.outcome])

/-- The invocation of the half, if there is one. -/
def invocation? (visit : Visit) : Option Invocation :=
  match visit.course with
  | .invoked invocation => some invocation
  | _ => none

/-- How the half ended, if it was invoked. -/
def outcome (visit : Visit) : Option (Except Failure Unit) :=
  visit.invocation?.map Invocation.outcome

/-- The status of the scenario, should the visit have a result. -/
def status (visit : Visit) : ScenarioStatus :=
  statusOf visit.scenario visit.outcome

/-- The result of the visit, or the failure that breaks the run off. -/
def result
    (visit : Visit)
    (config : RunConfig) : Except Failure ScenarioResult :=
  match visit.course with
  | .unjudged failure => .error failure
  | _ => resultOf config visit.scenario visit.outcome

/-- The message with which the half found the service out of reach. -/
def abort? (visit : Visit) : Option String :=
  abortOf visit.outcome

/-- The visit has no result: the scenario could not be judged, or how its half failed cannot be
told. -/
def IsUntold (visit : Visit) : Prop :=
  match visit.course with
  | .unjudged _ => True
  | .skipped => False
  | .invoked invocation => ∃ failure, invocation.outcome = .error failure ∧ failure.IsUntold

/-- No scenario is visited after this one. -/
def IsLast (visit : Visit) : Prop :=
  (∃ message, visit.abort? = some message) ∨ visit.IsUntold

end Visit

/-- Each visit finds the memory that the one before left. -/
def Linked :
    Session → List Visit → Session → Prop
  | before, [], after => after = before
  | before, visit :: rest, after => visit.before = before ∧ Linked visit.after rest after

/-! ## One visit -/

section OneVisit

variable {harness : Harness} {config : RunConfig} {scenario : Scenario} {visit : Visit}
  {before after : Session} {events : List Event}

theorem Visit.runsHalf_iff
    {invocation : Invocation} :
    visit.RunsHalf harness config invocation ↔
      (visit.scenario.half config.phase ⟨config, harness, visit.scenario.toDeclaration⟩).Runs
        (visit.bound config) invocation.events invocation.outcome invocation.after := by
  constructor
  · intro hruns
    cases hphase : config.phase with
    | preUpgrade => exact hruns.preUpgrade hphase
    | postUpgrade => exact hruns.postUpgrade hphase
  · intro hrun
    refine ⟨fun hphase => ?_, fun hphase => ?_⟩
    · rwa [hphase] at hrun
    · rwa [hphase] at hrun

/-- What a sound visit invokes is the half for the phase. -/
theorem Visit.runs_half_of_isSound
    {invocation : Invocation}
    (hsound : visit.IsSound harness config)
    (hinvocation : visit.invocation? = some invocation) :
    (visit.scenario.half config.phase ⟨config, harness, visit.scenario.toDeclaration⟩).Runs
      (visit.bound config) invocation.events invocation.outcome invocation.after := by
  obtain ⟨scenario, before, course⟩ := visit
  cases course with
  | unjudged failure => cases hinvocation
  | skipped => cases hinvocation
  | invoked other =>
      cases hinvocation
      exact runsHalf_iff.mp hsound.2

theorem Visit.IsSound.appliesTo_of_invocation?
    {invocation : Invocation}
    (hsound : visit.IsSound harness config)
    (hinvocation : visit.invocation? = some invocation) :
    visit.scenario.appliesTo config.oldVersion = .ok true := by
  obtain ⟨scenario, before, course⟩ := visit
  cases course with
  | unjudged failure => cases hinvocation
  | skipped => cases hinvocation
  | invoked other => exact hsound.1

/-- Only the end of a half with the service out of reach aborts a run. -/
theorem abortOf_eq_some_iff
    {outcome : Option (Except Failure Unit)} {message : String} :
    abortOf outcome = some message ↔ outcome = some (.error (.unreachable message)) := by
  cases outcome with
  | none => simp [abortOf]
  | some ending =>
      cases ending with
      | ok value => simp [abortOf]
      | error failure => cases failure <;> simp [abortOf]

/-- A result is missing exactly when the reason for it cannot be told. -/
theorem exists_resultOf_eq_error_iff
    {outcome : Option (Except Failure Unit)} :
    (∃ failure, resultOf config scenario outcome = .error failure) ↔
      ∃ failure, outcome = some (.error failure) ∧ failure.IsUntold := by
  match outcome with
  | none => simp [resultOf, reasonOf, Except.map]
  | some (.ok ()) => simp [resultOf, reasonOf, Except.map]
  | some (.error failure) =>
      cases hmessage : failure.message with
      | ok text =>
          have htold : ¬failure.IsUntold := Failure.exists_message_iff.mp ⟨text, hmessage⟩
          simp [resultOf, reasonOf, hmessage, Except.map, htold]
      | error other =>
          obtain ⟨name, cause, rfl, _⟩ := Failure.message_eq_error_iff.mp hmessage
          refine iff_of_true ⟨other, ?_⟩ ⟨_, rfl, name, cause, rfl⟩
          simp [resultOf, reasonOf, hmessage, Except.map]

/-- A visit breaks the run off exactly when it has no result. -/
theorem Visit.exists_result_eq_error_iff
    (visit : Visit)
    (config : RunConfig) :
    (∃ failure, visit.result config = .error failure) ↔ visit.IsUntold := by
  obtain ⟨scenario, before, course⟩ := visit
  cases course with
  | unjudged failure => exact iff_of_true ⟨failure, rfl⟩ trivial
  | skipped => exact exists_resultOf_eq_error_iff.trans (by simp [outcome, invocation?, IsUntold])
  | invoked invocation =>
      exact exists_resultOf_eq_error_iff.trans (by simp [outcome, invocation?, IsUntold])

/-- A visit has no result, or it aborts the run, or the run goes on behind it. -/
theorem Visit.last_or_goesOn
    (visit : Visit)
    (config : RunConfig) :
    (∃ failure, visit.result config = .error failure ∧ visit.IsLast) ∨
    (∃ told message,
      visit.result config = .ok told ∧ visit.abort? = some message ∧ visit.IsLast) ∨
    ∃ told, visit.result config = .ok told ∧ visit.abort? = none ∧ ¬visit.IsLast := by
  cases hresult : visit.result config with
  | error failure =>
      exact Or.inl ⟨failure, rfl, Or.inr
        ((visit.exists_result_eq_error_iff config).mp ⟨failure, hresult⟩)⟩
  | ok told =>
      have htold : ¬visit.IsUntold := by
        rw [← visit.exists_result_eq_error_iff config, hresult]
        simp
      cases habort : visit.abort? with
      | some message => exact Or.inr (Or.inl ⟨told, message, rfl, rfl, Or.inl ⟨message, habort⟩⟩)
      | none => exact Or.inr (Or.inr ⟨told, rfl, rfl, by simp [IsLast, habort, htold]⟩)

theorem Visit.exists_result_of_not_isLast
    {visit : Visit}
    (hgoes : ¬visit.IsLast)
    (config : RunConfig) :
    ∃ told, visit.result config = .ok told ∧ visit.abort? = none := by
  obtain ⟨_, _, hlast⟩ | ⟨_, _, _, _, hlast⟩ | ⟨told, htold, habort, _⟩ :=
    visit.last_or_goesOn config
  · exact absurd hlast hgoes
  · exact absurd hlast hgoes
  · exact ⟨told, htold, habort⟩

/-- The name and the status of a result are those of the visit. -/
theorem Visit.eq_of_result
    {result : ScenarioResult}
    (hresult : visit.result config = .ok result) :
    result.name = visit.scenario.name ∧ result.status = visit.status := by
  obtain ⟨scenario, before, course⟩ := visit
  have htold : ∀ outcome,
      resultOf config scenario outcome = .ok result →
      result.name = scenario.name ∧ result.status = statusOf scenario outcome := by
    intro outcome houtcome
    unfold resultOf at houtcome
    cases hreason : reasonOf config outcome with
    | error failure => simp [hreason, Except.map] at houtcome
    | ok reason =>
        rw [hreason] at houtcome
        cases houtcome
        exact ⟨rfl, rfl⟩
  cases course with
  | unjudged failure => cases hresult
  | skipped => exact htold none hresult
  | invoked invocation => exact htold (some invocation.outcome) hresult

theorem runs_failedNote_iff
    {failure : Failure} {result : Except Failure Unit} :
    (failedNote scenario failure).Runs before events result after ↔
      events = [concludingNote before scenario (.error failure)] ∧
      result = .ok () ∧ after = before := by
  cases failure <;> exact runs_note_iff

theorem failedResult_eq
    (config : RunConfig)
    (scenario : Scenario)
    (failure : Failure) :
    failedResult scenario failure = resultOf config scenario (some (.error failure)) := by
  have hstatus : failedStatus scenario failure = statusOf scenario (some (.error failure)) := by
    cases failure <;> rfl
  unfold failedResult resultOf reasonOf
  simp only [hstatus]
  cases failure.message <;> rfl

theorem abortReason?_eq
    (failure : Failure) :
    abortReason? failure = abortOf (some (.error failure)) := by
  cases failure <;> rfl

theorem runs_conclude_iff
    (config : RunConfig)
    {outcome : Except Failure Unit} {result : Except Failure Step} :
    (conclude scenario outcome).Runs before events result after ↔
      events = [concludingNote before scenario outcome] ∧
      result =
        (resultOf config scenario (some outcome)).map (fun told => (told, abortOf (some outcome))) ∧
      after = before := by
  cases outcome with
  | ok value =>
      unfold conclude
      rw [runs_note_bind_iff]
      simp only [runs_pure_iff]
      constructor
      · rintro ⟨rest, rfl, rfl, rfl, rfl⟩
        exact ⟨rfl, rfl, rfl⟩
      · rintro ⟨rfl, rfl, rfl⟩
        exact ⟨[], rfl, rfl, rfl, rfl⟩
  | error failure =>
      unfold conclude
      simp only
      rw [runs_bind_iff]
      simp only [runs_failedNote_iff, runs_liftM_bind_iff, runs_pure_iff, failedResult_eq config,
        abortReason?_eq]
      constructor
      · rintro (⟨_, middle, front, back, rfl, ⟨rfl, _, rfl⟩,
          ⟨told, htold, rfl, rfl, rfl⟩ | ⟨other, hother, rfl, rfl, rfl⟩⟩ | ⟨_, _, _, h, _⟩)
        · exact ⟨rfl, by rw [htold]; rfl, rfl⟩
        · exact ⟨rfl, by rw [hother]; rfl, rfl⟩
        · cases h
      · rintro ⟨rfl, rfl, rfl⟩
        refine Or.inl ⟨(), after, _, [], rfl, ⟨rfl, trivial, rfl⟩, ?_⟩
        cases htold : resultOf config scenario (some (.error failure)) with
        | ok told => exact Or.inl ⟨told, rfl, rfl, rfl, rfl⟩
        | error other => exact Or.inr ⟨other, rfl, rfl, rfl, rfl⟩

/-- An applicable scenario has its half invoked once, under the context of the scenario. -/
theorem runs_runHalf_iff
    {result : Except Failure Step} :
    (runHalf harness config scenario).Runs before events result after ↔
      ∃ invocation : Invocation,
        (scenario.half config.phase ⟨config, harness, scenario.toDeclaration⟩).Runs
          (bindContext before (contextOf config scenario)) invocation.events invocation.outcome
          invocation.after ∧
        events =
          noted (bindContext before (contextOf config scenario)) .info "scenario_started" ::
            (invocation.events ++
              [concludingNote invocation.after scenario invocation.outcome]) ∧
        result =
          (resultOf config scenario (some invocation.outcome)).map
            (fun told => (told, abortOf (some invocation.outcome))) ∧
        after = restoreContext invocation.after before := by
  unfold runHalf
  simp only [runs_within_iff, runs_note_bind_iff, runs_attempt_bind_iff, runs_conclude_iff config]
  constructor
  · rintro ⟨inner, ⟨rest, rfl, outcome, middle, front, back, rfl, hhalf, rfl, rfl, rfl⟩, rfl⟩
    exact ⟨⟨front, outcome, inner⟩, hhalf, rfl, rfl, rfl⟩
  · rintro ⟨invocation, hhalf, rfl, rfl, rfl⟩
    exact ⟨invocation.after, ⟨_, rfl, invocation.outcome, invocation.after, invocation.events, _,
      rfl, hhalf, rfl, rfl, rfl⟩, rfl⟩

/-- Skipping a scenario tells the version to which it is not applicable. -/
theorem runs_skip_iff
    (hwritten : ¬config.oldVersion.IsUnwritten)
    {result : Except Failure Step} :
    Action.Runs (do
        note .info "scenario_skipped"
          [("scenario", .json (.string scenario.name)),
           ("reason", .json (.string "not applicable"))]
        let result ← skippedResult scenario config.oldVersion
        return (result, none)) before events result after ↔
      events =
        [noted before .info "scenario_skipped"
          [("scenario", .json (.string scenario.name)),
           ("reason", .json (.string "not applicable"))]] ∧
      result = (resultOf config scenario none).map (fun told => (told, none)) ∧
      after = before := by
  have hskipped : skippedResult scenario config.oldVersion = resultOf config scenario none := by
    have htext := Version.text?_of_not_isUnwritten hwritten
    unfold skippedResult
    generalize config.oldVersion.text? = text at htext ⊢
    rw [htext]
    rfl
  rw [runs_note_bind_iff]
  simp only [hskipped, runs_liftM_bind_iff, runs_pure_iff]
  constructor
  · rintro ⟨rest, rfl, ⟨told, htold, rfl, rfl, rfl⟩ | ⟨failure, hfailed, _⟩⟩
    · exact ⟨rfl, by rw [htold]; rfl, rfl⟩
    · cases hfailed
  · rintro ⟨rfl, rfl, rfl⟩
    exact ⟨[], rfl, Or.inl ⟨_, rfl, rfl, rfl, rfl⟩⟩

/-- One visit. -/
theorem runs_runOne_iff
    (hwritten : ¬config.oldVersion.IsUnwritten)
    {result : Except Failure Step} :
    (runOne harness config scenario).Runs before events result after ↔
      ∃ visit : Visit,
        visit.scenario = scenario ∧
        visit.before = before ∧
        visit.IsSound harness config ∧
        events = visit.events config ∧
        result = (visit.result config).map (fun told => (told, visit.abort?)) ∧
        after = visit.after := by
  unfold runOne
  rw [runs_liftM_bind_iff]
  constructor
  · rintro (⟨applicable, happlies, hrun⟩ | ⟨failure, hfailed, rfl, rfl, rfl⟩)
    · cases applicable with
      | true =>
          obtain ⟨invocation, hhalf, rfl, rfl, rfl⟩ := runs_runHalf_iff.mp hrun
          exact ⟨⟨scenario, before, .invoked invocation⟩, rfl, rfl,
            ⟨happlies, Visit.runsHalf_iff.mpr hhalf⟩, rfl, rfl, rfl⟩
      | false =>
          obtain ⟨rfl, rfl, rfl⟩ := (runs_skip_iff hwritten).mp hrun
          exact ⟨⟨scenario, after, .skipped⟩, rfl, rfl, happlies, rfl, rfl, rfl⟩
    · exact ⟨⟨scenario, after, .unjudged failure⟩, rfl, rfl, hfailed, rfl, rfl, rfl⟩
  · rintro ⟨⟨_, _, course⟩, rfl, rfl, hsound, rfl, rfl, rfl⟩
    cases course with
    | unjudged failure => exact Or.inr ⟨failure, hsound, rfl, rfl, rfl⟩
    | skipped =>
        refine Or.inl ⟨false, hsound, ?_⟩
        rw [if_neg Bool.false_ne_true, runs_skip_iff hwritten]
        exact ⟨rfl, rfl, rfl⟩
    | invoked invocation =>
        obtain ⟨happlies, hhalf⟩ := hsound
        exact Or.inl ⟨true, happlies, runs_runHalf_iff.mpr
          ⟨invocation, Visit.runsHalf_iff.mp hhalf, rfl, rfl, rfl⟩⟩

end OneVisit

/-! ## All visits -/

/-- The visits go up to and including the first one behind which no scenario is visited; when there
is none, every scenario is reached. -/
def EndAtFirstStop :
    List Visit → List Scenario → Prop
  | [], unreached => unreached = []
  | visit :: rest, unreached =>
      (visit.IsLast ∧ rest = []) ∨ (¬visit.IsLast ∧ EndAtFirstStop rest unreached)

section AllVisits

variable {harness : Harness} {config : RunConfig} {before after : Session} {events : List Event}

/-- The results of visits, or the failure of the one that has none. -/
def resultsOf
    (config : RunConfig)
    (visits : List Visit) : Except Failure (List ScenarioResult) :=
  visits.mapM (Visit.result · config)

theorem resultsOf_cons
    (visit : Visit)
    (rest : List Visit) :
    resultsOf config (visit :: rest) =
      (visit.result config).bind fun first => (resultsOf config rest).map (first :: ·) := by
  rw [resultsOf, List.mapM_cons]
  cases visit.result config with
  | error failure => rfl
  | ok first =>
      change (resultsOf config rest >>= fun others => pure (first :: others)) = _
      change _ = (resultsOf config rest).map (first :: ·)
      cases resultsOf config rest <;> rfl

/-- The names and the statuses of results are those of the visits. -/
theorem map_results
    {visits : List Visit} {told : List ScenarioResult}
    (hall : List.Forall₂ (fun visit result => visit.result config = .ok result) visits told) :
    told.map ScenarioResult.name = visits.map (fun visit => visit.scenario.name) ∧
      told.map ScenarioResult.status = visits.map Visit.status := by
  induction hall with
  | nil => exact ⟨rfl, rfl⟩
  | cons hresult _ ih =>
      obtain ⟨hname, hstatus⟩ := Visit.eq_of_result hresult
      simp only [List.map_cons, ih.1, ih.2, hname, hstatus]
      exact ⟨trivial, trivial⟩

theorem exists_resultsOf_eq_error_iff
    (config : RunConfig)
    {visits : List Visit} :
    (∃ failure, resultsOf config visits = .error failure) ↔ ∃ visit ∈ visits, visit.IsUntold := by
  induction visits with
  | nil => simp [resultsOf, pure, Except.pure]
  | cons visit rest ih =>
      rw [resultsOf_cons, List.exists_mem_cons_iff, ← visit.exists_result_eq_error_iff config, ← ih]
      cases visit.result config with
      | error failure => simp [Except.bind]
      | ok told => cases resultsOf config rest <;> simp [Except.bind, Except.map]

/-- What visits come to together: their results and those of the scenarios behind them, and why the
run was aborted. -/
def comesTo
    (config : RunConfig)
    (visits : List Visit)
    (unreached : List Scenario) : Except Failure (List ScenarioResult × Option String) :=
  (resultsOf config visits).map fun told =>
    (told ++ unreached.map notRun, visits.findSome? Visit.abort?)

theorem comesTo_singleton
    (visit : Visit)
    (unreached : List Scenario) :
    comesTo config [visit] unreached =
      (visit.result config).map fun told => (told :: unreached.map notRun, visit.abort?) := by
  rw [comesTo, resultsOf_cons, List.findSome?_singleton]
  cases visit.result config <;> rfl

/-- A visit behind which the run goes on adds its result to those of the others. -/
theorem comesTo_cons
    {visit : Visit} {told : ScenarioResult}
    (htold : visit.result config = .ok told)
    (habort : visit.abort? = none)
    (visits : List Visit)
    (unreached : List Scenario) :
    comesTo config (visit :: visits) unreached =
      (comesTo config visits unreached).map fun step => (told :: step.1, step.2) := by
  rw [comesTo, comesTo, resultsOf_cons, htold, List.findSome?_cons, habort]
  cases resultsOf config visits <;> rfl

/-- What is left of a run after the step of one scenario. -/
theorem runs_afterStep_iff
    {rest : List Scenario} {first : ScenarioResult} {abort : Option String}
    {result : Except Failure (List ScenarioResult × Option String)} :
    Action.Runs (match abort with
        | some reason => return (first :: rest.map notRun, some reason)
        | none => do
          let (results, abort) ← runAll harness config rest
          return (first :: results, abort)) before events result after ↔
      (abort.isSome = true ∧
        events = [] ∧ result = .ok (first :: rest.map notRun, abort) ∧ after = before)
      ∨
      (abort = none ∧
        ∃ outcome,
          (runAll harness config rest).Runs before events outcome after ∧
          result = outcome.map fun step => (first :: step.1, step.2)) := by
  cases abort with
  | some reason =>
      rw [runs_pure_iff]
      simp
  | none =>
      simp only [Option.isSome_none, Bool.false_eq_true, false_and, false_or, true_and]
      rw [runs_bind_iff]
      constructor
      · rintro (⟨step, middle, front, back, rfl, hrest, hend⟩ | ⟨failure, rfl, hrest⟩)
        · obtain ⟨rfl, rfl, rfl⟩ := runs_pure_iff.mp hend
          rw [List.append_nil]
          exact ⟨.ok step, hrest, rfl⟩
        · exact ⟨.error failure, hrest, rfl⟩
      · rintro ⟨outcome, hrest, rfl⟩
        cases outcome with
        | ok step =>
            exact Or.inl ⟨step, after, events, [], (List.append_nil _).symm, hrest,
              runs_pure_iff.mpr ⟨rfl, rfl, rfl⟩⟩
        | error failure => exact Or.inr ⟨failure, rfl, hrest⟩

/-- A visit, after which the run is over or goes on with the other scenarios. -/
theorem runs_runAll_cons_iff
    (hwritten : ¬config.oldVersion.IsUnwritten)
    {scenario : Scenario} {rest : List Scenario}
    {result : Except Failure (List ScenarioResult × Option String)} :
    (runAll harness config (scenario :: rest)).Runs before events result after ↔
      ∃ visit : Visit,
        visit.scenario = scenario ∧
        visit.before = before ∧
        visit.IsSound harness config ∧
        ((visit.IsLast ∧
            events = visit.events config ∧
            result = comesTo config [visit] rest ∧
            after = visit.after)
          ∨
          (¬visit.IsLast ∧
            ∃ told tail outcome,
              visit.result config = .ok told ∧
              visit.abort? = none ∧
              events = visit.events config ++ tail ∧
              (runAll harness config rest).Runs visit.after tail outcome after ∧
              result = outcome.map fun step => (told :: step.1, step.2))) := by
  rw [runAll, runs_bind_iff]
  simp only [runs_runOne_iff hwritten, comesTo_singleton]
  constructor
  · rintro (⟨step, _, _, back, rfl, ⟨visit, rfl, rfl, hsound, rfl, hstep, rfl⟩, hback⟩ |
        ⟨failure, rfl, visit, rfl, rfl, hsound, rfl, hfailed, rfl⟩)
    · refine ⟨visit, rfl, rfl, hsound, ?_⟩
      obtain ⟨_, htold, _⟩ | ⟨told, message, htold, habort, hlast⟩ | ⟨told, htold, habort, hgoes⟩ :=
        visit.last_or_goesOn config
      · rw [htold] at hstep
        cases hstep
      · rw [htold] at hstep ⊢
        cases hstep
        obtain ⟨_, rfl, rfl, rfl⟩ | ⟨hnone, _⟩ := runs_afterStep_iff.mp hback
        · exact Or.inl ⟨hlast, List.append_nil _, rfl, rfl⟩
        · cases habort.symm.trans hnone
      · rw [htold] at hstep
        cases hstep
        obtain ⟨hsome, _⟩ | ⟨_, outcome, hrest, rfl⟩ := runs_afterStep_iff.mp hback
        · simp [habort] at hsome
        · exact Or.inr ⟨hgoes, told, back, outcome, htold, habort, rfl, hrest, rfl⟩
    · refine ⟨visit, rfl, rfl, hsound, Or.inl ?_⟩
      obtain ⟨other, htold, hlast⟩ | ⟨_, _, htold, _⟩ | ⟨_, htold, _⟩ :=
        visit.last_or_goesOn config
      · rw [htold] at hfailed ⊢
        cases hfailed
        exact ⟨hlast, rfl, rfl, rfl⟩
      · rw [htold] at hfailed
        cases hfailed
      · rw [htold] at hfailed
        cases hfailed
  · rintro ⟨visit, rfl, rfl, hsound, ⟨hlast, rfl, rfl, rfl⟩ |
      ⟨_, told, tail, outcome, htold, habort, rfl, hrest, rfl⟩⟩
    · obtain ⟨failure, htold, _⟩ | ⟨told, message, htold, habort, _⟩ | ⟨_, _, _, hgoes⟩ :=
        visit.last_or_goesOn config
      · rw [htold]
        exact Or.inr ⟨failure, rfl, visit, rfl, rfl, hsound, rfl, by rw [htold]; rfl, rfl⟩
      · rw [htold]
        exact Or.inl ⟨(told, visit.abort?), visit.after, _, [], (List.append_nil _).symm,
          ⟨visit, rfl, rfl, hsound, rfl, by rw [htold]; rfl, rfl⟩,
          runs_afterStep_iff.mpr (Or.inl ⟨by rw [habort]; rfl, rfl, rfl, rfl⟩)⟩
      · exact absurd hlast hgoes
    · exact Or.inl ⟨(told, visit.abort?), visit.after, _, tail, rfl,
        ⟨visit, rfl, rfl, hsound, rfl, by rw [htold]; rfl, rfl⟩,
        runs_afterStep_iff.mpr (Or.inr ⟨habort, outcome, hrest, rfl⟩)⟩

/-- The runs over a list of scenarios. -/
theorem runs_runAll_iff
    (hwritten : ¬config.oldVersion.IsUnwritten)
    {scenarios : List Scenario}
    {result : Except Failure (List ScenarioResult × Option String)} :
    (runAll harness config scenarios).Runs before events result after ↔
      ∃ (visits : List Visit) (unreached : List Scenario),
        scenarios = visits.map Visit.scenario ++ unreached ∧
        Linked before visits after ∧
        (∀ visit ∈ visits, visit.IsSound harness config) ∧
        EndAtFirstStop visits unreached ∧
        events = visits.flatMap (Visit.events · config) ∧
        result = comesTo config visits unreached := by
  -- Every visit leaves a memory of its own, from which the rest of the list is run.
  induction scenarios generalizing before events result with
  | nil =>
      rw [runAll, runs_pure_iff]
      constructor
      · rintro ⟨rfl, rfl, rfl⟩
        exact ⟨[], [], rfl, rfl, by simp, rfl, rfl, rfl⟩
      · rintro ⟨visits, unreached, hcovers, hlinked, _, _, rfl, rfl⟩
        obtain ⟨hvisits, rfl⟩ := List.append_eq_nil_iff.mp hcovers.symm
        obtain rfl := List.map_eq_nil_iff.mp hvisits
        exact ⟨rfl, rfl, hlinked⟩
  | cons scenario rest ih =>
      rw [runs_runAll_cons_iff hwritten]
      simp only [ih]
      constructor
      · rintro ⟨visit, rfl, rfl, hsound, ⟨hlast, rfl, rfl, rfl⟩ |
          ⟨hgoes, told, tail, outcome, htold, habort, rfl, hrest, rfl⟩⟩
        · exact ⟨[visit], rest, rfl, ⟨rfl, rfl⟩, List.forall_mem_singleton.mpr hsound,
            Or.inl ⟨hlast, rfl⟩, (List.flatMap_singleton _ _).symm, rfl⟩
        · obtain ⟨visits, unreached, rfl, hlinked, hsounds, hends, rfl, rfl⟩ := hrest
          exact ⟨visit :: visits, unreached, rfl, ⟨rfl, hlinked⟩,
            List.forall_mem_cons.mpr ⟨hsound, hsounds⟩, Or.inr ⟨hgoes, hends⟩,
            by rw [List.flatMap_cons], (comesTo_cons htold habort visits unreached).symm⟩
      · rintro ⟨visits, unreached, hcovers, hlinked, hsounds, hends, rfl, rfl⟩
        cases visits with
        | nil =>
            -- Nothing is left unreached when no visit has been made.
            cases hends
            cases hcovers
        | cons visit visits =>
            rw [List.map_cons, List.cons_append, List.cons.injEq] at hcovers
            obtain ⟨rfl, rfl⟩ := hcovers
            obtain ⟨rfl, hlinked⟩ := hlinked
            obtain ⟨hsound, hsounds⟩ := List.forall_mem_cons.mp hsounds
            refine ⟨visit, rfl, rfl, hsound, ?_⟩
            rcases hends with ⟨hlast, rfl⟩ | ⟨hgoes, hends⟩
            · exact Or.inl ⟨hlast, List.flatMap_singleton _ _, rfl, hlinked⟩
            · obtain ⟨told, htold, habort⟩ := Visit.exists_result_of_not_isLast hgoes config
              exact Or.inr ⟨hgoes, told, _, _, htold, habort, List.flatMap_cons,
                ⟨visits, unreached, rfl, hlinked, hsounds, hends, rfl, rfl⟩,
                comesTo_cons htold habort visits unreached⟩

end AllVisits

/-! ## The whole phase -/

/-- The entry that opens the log of a run. -/
def runStarted
    (session : Session)
    (config : RunConfig)
    (scenarios : List Scenario) : Event :=
  noted session .info "run_started"
    [("phase", .json (.string config.phase.text)),
     ("old_version", .json (.string config.oldVersion.spelling)),
     ("scenarios", .json (.array (scenarios.map fun scenario => .string scenario.name)))]

/-- The entry that closes the log of a run. -/
def runFinished
    (session : Session)
    (report : RunReport) : Event :=
  noted session .info "run_finished"
    (("phase", .json (.string report.phase.text)) :: summaryFields report)

/-- Why a run is refused when scenarios share a name. -/
def duplicateNames (scenarios : List Scenario) : Failure :=
  .defect (.badValue ("duplicate scenario names: "
    ++ Text.quotedList (duplicates (scenarios.map fun scenario => scenario.name))))

/-- What becomes of the scenarios of a run. -/
structure Account where
  visits : List Visit
  unreached : List Scenario

namespace Account

/-- The account covers the scenarios in declared order, its visits are sound and follow on one
another, and they end at the first one that finds the service out of reach or has no result. -/
structure Explains
    (account : Account)
    (harness : Harness)
    (config : RunConfig)
    (scenarios : List Scenario)
    (before after : Session) : Prop where
  covers : scenarios = account.visits.map Visit.scenario ++ account.unreached
  linked : Linked before account.visits after
  sound : ∀ visit ∈ account.visits, visit.IsSound harness config
  ends : EndAtFirstStop account.visits account.unreached

def reached (account : Account) : List Scenario :=
  account.visits.map Visit.scenario

/-- The scenarios whose half is invoked, once for every invocation. -/
def invoked (account : Account) : List Scenario :=
  (account.visits.filter fun visit => visit.invocation?.isSome).map Visit.scenario

/-- How the invoked halves end. -/
def outcomes (account : Account) : List (Except Failure Unit) :=
  account.visits.filterMap Visit.outcome

/-- The message of the first half that finds the service out of reach. -/
def abort? (account : Account) : Option String :=
  account.visits.findSome? Visit.abort?

/-- The results of all scenarios, or the failure of the visit that has none. -/
def results
    (account : Account)
    (config : RunConfig) : Except Failure (List ScenarioResult) :=
  (resultsOf config account.visits).map (· ++ account.unreached.map notRun)

/-- The report of the run, or the failure that breaks it off. -/
def ending
    (account : Account)
    (config : RunConfig) : Except Failure RunReport :=
  (account.results config).map fun results =>
    { phase := config.phase
      oldVersion := config.oldVersion
      results := results
      aborted := account.abort?.isSome
      abortReason := account.abort? }

/-- The entry that closes the log of a run that ends in a report. -/
def closing
    (account : Account)
    (config : RunConfig)
    (after : Session) : List Event :=
  match account.ending config with
  | .ok report => [runFinished after report]
  | .error _ => []

section Consequences

variable {account : Account} {harness : Harness} {config : RunConfig} {scenarios : List Scenario}
  {before after : Session} {report : RunReport}

theorem ending_eq_map
    (account : Account)
    (config : RunConfig) :
    account.ending config =
      (comesTo config account.visits account.unreached).map fun step =>
        ⟨config.phase, config.oldVersion, step.1, step.2.isSome, step.2⟩ := by
  rw [ending, results, comesTo]
  cases resultsOf config account.visits <;> rfl

/-- A report has the results of the visits, and behind them those of the scenarios that are not
reached. -/
theorem ending_eq_ok_iff :
    account.ending config = .ok report ↔
      ∃ told,
        List.Forall₂ (fun visit result => visit.result config = .ok result) account.visits told ∧
        report =
          { phase := config.phase
            oldVersion := config.oldVersion
            results := told ++ account.unreached.map notRun
            aborted := account.abort?.isSome
            abortReason := account.abort? } := by
  unfold ending results
  cases htold : resultsOf config account.visits with
  | error failure =>
      refine iff_of_false (by simp [Except.map]) ?_
      rintro ⟨told, hall, _⟩
      cases htold.symm.trans (Json.mapM_eq_ok_iff.mpr hall)
  | ok told =>
      have hall := Json.mapM_eq_ok_iff.mp htold
      simp only [Except.map, Except.ok.injEq]
      constructor
      · rintro rfl
        exact ⟨told, hall, rfl⟩
      · rintro ⟨others, hothers, rfl⟩
        have hsame : resultsOf config account.visits = .ok others :=
          Json.mapM_eq_ok_iff.mpr hothers
        rw [Except.ok.inj (htold.symm.trans hsame)]

/-- A run is broken off exactly when one of its visits has no result. -/
theorem exists_ending_eq_error_iff
    (account : Account)
    (config : RunConfig) :
    (∃ failure, account.ending config = .error failure) ↔
      ∃ visit ∈ account.visits, visit.IsUntold := by
  rw [← exists_resultsOf_eq_error_iff config]
  unfold ending results
  cases resultsOf config account.visits with
  | error failure => simp [Except.map]
  | ok told => simp [Except.map]

theorem Explains.names_results
    (hexplains : account.Explains harness config scenarios before after)
    (hreport : account.ending config = .ok report) :
    report.results.map ScenarioResult.name = scenarios.map fun scenario => scenario.name := by
  obtain ⟨told, hall, rfl⟩ := ending_eq_ok_iff.mp hreport
  rw [hexplains.covers, List.map_append, (map_results hall).1, List.map_append, List.map_map,
    List.map_map]
  rfl

/-- The statuses of a report are those of the visits, and behind them the scenarios that are not
reached. -/
theorem statuses_results
    (hreport : account.ending config = .ok report) :
    report.results.map ScenarioResult.status =
      account.visits.map Visit.status ++ account.unreached.map fun _ => .notRun := by
  obtain ⟨told, hall, rfl⟩ := ending_eq_ok_iff.mp hreport
  rw [List.map_append, (map_results hall).2, List.map_map]
  rfl

/-- A sound visit invokes a half exactly when the scenario is applicable. -/
theorem isSome_invocation?_of_isSound
    {visit : Visit}
    (hsound : visit.IsSound harness config) :
    visit.invocation?.isSome = visit.scenario.isApplicable config.oldVersion := by
  obtain ⟨scenario, memory, course⟩ := visit
  unfold Scenario.isApplicable
  cases course with
  | unjudged failure => rw [show scenario.appliesTo _ = _ from hsound]; rfl
  | skipped => rw [show scenario.appliesTo _ = _ from hsound]; rfl
  | invoked invocation => rw [show scenario.appliesTo _ = _ from hsound.1]; rfl

theorem Explains.invoked_eq
    (hexplains : account.Explains harness config scenarios before after) :
    account.invoked =
      account.reached.filter fun scenario => scenario.isApplicable config.oldVersion := by
  rw [invoked, reached, List.filter_map]
  congr 1
  apply List.filter_congr
  intro visit hvisit
  exact isSome_invocation?_of_isSound (hexplains.sound visit hvisit)

theorem isSome_abort?_iff
    (account : Account) :
    account.abort?.isSome = true ↔
      ∃ message, Except.error (.unreachable message) ∈ account.outcomes := by
  rw [abort?, List.isSome_findSome?, List.any_eq_true]
  constructor
  · rintro ⟨visit, hvisit, habort⟩
    obtain ⟨message, hmessage⟩ := Option.isSome_iff_exists.mp habort
    exact ⟨message, List.mem_filterMap.mpr ⟨visit, hvisit, abortOf_eq_some_iff.mp hmessage⟩⟩
  · rintro ⟨message, houtcome⟩
    obtain ⟨visit, hvisit, hending⟩ := List.mem_filterMap.mp houtcome
    refine ⟨visit, hvisit, ?_⟩
    rw [Visit.abort?, abortOf_eq_some_iff.mpr hending]
    rfl

end Consequences

end Account

section Phase

variable {harness : Harness} {config : RunConfig} {scenarios : List Scenario}
  {before after : Session} {events : List Event}

/-- The part of a run that follows its opening log entry. -/
theorem runs_afterStart_iff
    (hwritten : ¬config.oldVersion.IsUnwritten)
    {result : Except Failure RunReport} :
    Action.Runs (do
        let (results, abort) ← runAll harness config scenarios
        let report : RunReport :=
          ⟨config.phase, config.oldVersion, results, abort.isSome, abort⟩
        note .info "run_finished"
          (("phase", .json (.string config.phase.text)) :: summaryFields report)
        return report) before events result after ↔
      ∃ account : Account,
        account.Explains harness config scenarios before after ∧
        events =
          account.visits.flatMap (Visit.events · config) ++ account.closing config after ∧
        result = account.ending config := by
  rw [runs_bind_iff]
  simp only [runs_runAll_iff hwritten, runs_note_bind_iff, runs_pure_iff]
  constructor
  · rintro (⟨step, middle, front, back, rfl,
      ⟨visits, unreached, hcovers, hlinked, hsound, hends, rfl, hstep⟩, rest, rfl, rfl, rfl, rfl⟩ |
        ⟨failure, rfl, visits, unreached, hcovers, hlinked, hsound, hends, rfl, hfailed⟩)
    · refine ⟨⟨visits, unreached⟩, ⟨hcovers, hlinked, hsound, hends⟩, ?_⟩
      rw [Account.closing, Account.ending_eq_map, ← hstep]
      exact ⟨rfl, rfl⟩
    · refine ⟨⟨visits, unreached⟩, ⟨hcovers, hlinked, hsound, hends⟩, ?_⟩
      rw [Account.closing, Account.ending_eq_map, ← hfailed]
      exact ⟨(List.append_nil _).symm, rfl⟩
  · rintro ⟨⟨visits, unreached⟩, hexplains, rfl, rfl⟩
    rw [Account.closing, Account.ending_eq_map]
    cases hstep : comesTo config visits unreached with
    | ok step =>
        exact Or.inl ⟨step, after, _, _, rfl, ⟨visits, unreached, hexplains.covers,
          hexplains.linked, hexplains.sound, hexplains.ends, rfl, hstep.symm⟩,
          [], rfl, rfl, rfl, rfl⟩
    | error failure =>
        exact Or.inr ⟨failure, rfl, visits, unreached, hexplains.covers, hexplains.linked,
          hexplains.sound, hexplains.ends, List.append_nil _, hstep.symm⟩

theorem runs_run_of_nodup
    (hwritten : ¬config.oldVersion.IsUnwritten)
    {result : Except Failure RunReport}
    (hnodup : (scenarios.map fun scenario => scenario.name).Nodup) :
    (run harness config scenarios).Runs before events result after ↔
      ∃ account : Account,
        account.Explains harness config scenarios before after ∧
        events =
          runStarted before config scenarios ::
            (account.visits.flatMap (Visit.events · config) ++ account.closing config after) ∧
        result = account.ending config := by
  unfold run
  simp only
  rw [duplicates_eq_nil_iff.mpr hnodup, if_neg (by decide),
    Version.text?_of_not_isUnwritten hwritten]
  unfold runNamed
  simp only
  rw [runs_note_bind_iff]
  constructor
  · rintro ⟨rest, rfl, hrest⟩
    obtain ⟨account, hexplains, rfl, rfl⟩ := (runs_afterStart_iff hwritten).mp hrest
    exact ⟨account, hexplains, rfl, rfl⟩
  · rintro ⟨account, hexplains, rfl, rfl⟩
    exact ⟨_, rfl, (runs_afterStart_iff hwritten).mpr ⟨account, hexplains, rfl, rfl⟩⟩

theorem runs_run_of_not_nodup
    {result : Except Failure RunReport}
    (hdup : ¬(scenarios.map fun scenario => scenario.name).Nodup) :
    (run harness config scenarios).Runs before events result after ↔
      events = [] ∧ result = .error (duplicateNames scenarios) ∧ after = before := by
  have hduplicates : duplicates (scenarios.map fun scenario => scenario.name) ≠ [] :=
    mt duplicates_eq_nil_iff.mp hdup
  unfold run
  simp only
  rw [if_pos (by simpa using hduplicates)]
  exact runs_fail_bind_iff

/-- The old version is told before anything else is done. -/
theorem runs_run_of_isUnwritten
    (hunwritten : config.oldVersion.IsUnwritten)
    {result : Except Failure RunReport}
    (hnodup : (scenarios.map fun scenario => scenario.name).Nodup) :
    (run harness config scenarios).Runs before events result after ↔
      events = [] ∧ result = .error .unwritten ∧ after = before := by
  unfold run
  simp only
  rw [duplicates_eq_nil_iff.mpr hnodup, if_neg (by decide),
    Version.text?_eq_none_iff.mpr hunwritten]
  exact runs_fail_iff

end Phase

/-- **The runs of a phase.**  When two scenarios share a name the run fails before anything is
done, and so it does when the old version is not written.  Otherwise the scenarios are visited in
declared order up to the first half that finds the service out of reach; the halves invoked are
those of the applicable scenarios among them; and the report lists what became of every scenario, in
declared order.  There is no report exactly when some visit has no result: how its half failed
cannot be told, or its scenario cannot be judged. -/
theorem runs_run_iff_account
    (harness : Harness)
    (config : RunConfig)
    (scenarios : List Scenario)
    (before after : Session)
    (events : List Event)
    (result : Except Failure RunReport) :
    (run harness config scenarios).Runs before events result after ↔
      if ¬(scenarios.map fun scenario => scenario.name).Nodup then
        events = [] ∧ result = .error (duplicateNames scenarios) ∧ after = before
      else if config.oldVersion.IsUnwritten then
        events = [] ∧ result = .error .unwritten ∧ after = before
      else
        ∃ account : Account,
          account.Explains harness config scenarios before after ∧
          events =
            runStarted before config scenarios ::
              (account.visits.flatMap (Visit.events · config) ++ account.closing config after) ∧
          result = account.ending config ∧
          account.invoked =
            (account.reached.filter fun scenario => scenario.isApplicable config.oldVersion) ∧
          (∀ report, result = .ok report →
            report.results.map ScenarioResult.name =
              (scenarios.map fun scenario => scenario.name) ∧
            report.results.map ScenarioResult.status =
              account.visits.map Visit.status ++ (account.unreached.map fun _ => .notRun) ∧
            (report.aborted = true ↔
              ∃ message, Except.error (.unreachable message) ∈ account.outcomes) ∧
            report.abortReason = account.visits.findSome? Visit.abort?) ∧
          ((∃ failure, result = .error failure) ↔ ∃ visit ∈ account.visits, visit.IsUntold) := by
  by_cases hnodup : (scenarios.map fun scenario => scenario.name).Nodup
  · rw [if_neg (not_not_intro hnodup)]
    by_cases hunwritten : config.oldVersion.IsUnwritten
    · rw [if_pos hunwritten]
      exact runs_run_of_isUnwritten hunwritten hnodup
    rw [if_neg hunwritten, runs_run_of_nodup hunwritten hnodup]
    constructor
    · rintro ⟨account, hexplains, hevents, rfl⟩
      refine ⟨account, hexplains, hevents, rfl, hexplains.invoked_eq, fun report hreport => ?_,
        account.exists_ending_eq_error_iff config⟩
      refine ⟨hexplains.names_results hreport, Account.statuses_results hreport, ?_⟩
      obtain ⟨told, _, rfl⟩ := Account.ending_eq_ok_iff.mp hreport
      exact ⟨account.isSome_abort?_iff, rfl⟩
    · rintro ⟨account, hexplains, hevents, hresult, _⟩
      exact ⟨account, hexplains, hevents, hresult⟩
  · rw [if_pos hnodup]
    exact runs_run_of_not_nodup hnodup

/-- A run over one scenario ends without a report when it cannot be told how its half failed. -/
theorem exists_runs_run_of_untold
    {harness : Harness} {config : RunConfig} {scenario : Scenario} {before middle : Session}
    {inner : List Event} {failure other : Failure}
    (hwritten : ¬config.oldVersion.IsUnwritten)
    (happlies : scenario.appliesTo config.oldVersion = .ok true)
    (huntold : failure.message = .error other)
    (hhalf : (scenario.half config.phase ⟨config, harness, scenario.toDeclaration⟩).Runs
      (bindContext before (contextOf config scenario)) inner (.error failure) middle) :
    ∃ events after, (run harness config [scenario]).Runs before events (.error other) after := by
  have hnodup : ([scenario].map fun scenario => scenario.name).Nodup := by simp
  obtain ⟨visit, rfl, rfl, hcourse⟩ : ∃ visit : Visit,
      visit.scenario = scenario ∧ visit.before = before ∧
        visit.course = .invoked ⟨inner, .error failure, middle⟩ :=
    ⟨⟨scenario, before, .invoked ⟨inner, .error failure, middle⟩⟩, rfl, rfl, rfl⟩
  have hsound : visit.IsSound harness config := by
    rw [Visit.IsSound, hcourse]
    exact ⟨happlies, Visit.runsHalf_iff.mpr hhalf⟩
  have hlast : visit.IsLast := by
    obtain ⟨name, cause, rfl, _⟩ := Failure.message_eq_error_iff.mp huntold
    refine Or.inr ?_
    rw [Visit.IsUntold, hcourse]
    exact ⟨_, rfl, name, cause, rfl⟩
  have hresult : visit.result config = .error other := by
    rw [Visit.result, hcourse, Visit.outcome, Visit.invocation?, hcourse]
    simp [resultOf, reasonOf, huntold, Except.map]
  refine ⟨_, visit.after, (runs_run_of_nodup hwritten hnodup).mpr ⟨⟨[visit], []⟩,
    ⟨rfl, ⟨rfl, rfl⟩, List.forall_mem_singleton.mpr hsound, Or.inl ⟨hlast, rfl⟩⟩, rfl, ?_⟩⟩
  rw [Account.ending, Account.results, resultsOf_cons, hresult]
  rfl

/-- A scenario that is applicable to every version and fails in both halves, for lack of an entry
whose key has too many digits to be told. -/
def failing : Scenario where
  name := "failing"
  preUpgrade := fun _ => fail (.defect (.untold "KeyError" (.badValue Decimal.unwrittenMessage)))
  postUpgrade := fun _ => fail (.defect (.untold "KeyError" (.badValue Decimal.unwrittenMessage)))

/-- No two names coincide and the scenario is applicable, but there is no report: neither at a
version that is not written nor at one that is. -/
theorem unreported_in_failing :
    (([failing].map fun scenario => scenario.name).Nodup ∧
      ∀ version, failing.appliesTo version = .ok true) ∧
    (run (Harness.usual Capability.standard 1) ⟨.preUpgrade, .unwritten, none⟩ [failing]).Runs {} []
      (.error .unwritten) {} ∧
    ∃ events after,
      (run (Harness.usual Capability.standard 1) ⟨.preUpgrade, ⟨6, 3, 2, 99⟩, none⟩ [failing]).Runs
        {} events (.error .unwritten) after := by
  have hnodup : ([failing].map fun scenario => scenario.name).Nodup := by simp
  have hwritten : ¬(⟨6, 3, 2, 99⟩ : Version).IsUnwritten := by decide +kernel
  refine ⟨⟨hnodup, fun _ => rfl⟩, ?_, ?_⟩
  · exact (runs_run_of_isUnwritten Version.isUnwritten_unwritten hnodup).mpr ⟨rfl, rfl, rfl⟩
  · exact exists_runs_run_of_untold hwritten rfl rfl (runs_fail_iff.mpr ⟨rfl, rfl, rfl⟩)

end Coordinator
end RestartCheck
