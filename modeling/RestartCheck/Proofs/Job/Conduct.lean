import RestartCheck.Scenario.BackgroundJob
import RestartCheck.Proofs.Scenario.Conduct

/-!
# The conduct of the background job scenario

Each round of the wait reads three answers.  The second half only reads; the first half also stores
the documents, creates the job and starts it.

**Results.**
* `conforms_observe`, `conforms_awaitRunning`: one round, and the wait.
* `conforms_create`, `conforms_verify`: both halves.
-/

namespace RestartCheck
namespace BackgroundJob

open RestartCheck.Action

/-- The capabilities that the scenario looks up. -/
def needed : List String :=
  [Capability.rollupJobs, Capability.taskStateField]

/-! ## Judging answers -/

theorem failsWithin_findJob
    (jobId : String)
    (jobs : List Json) :
    FailsWithin Failure.IsOfService (findJob jobId jobs) := by
  induction jobs with
  | nil => exact failsWithin_ok none
  | cons job rest ih =>
      refine failsWithin_bind (Json.failsWithin_extractOr _ _ _) fun id => ?_
      split
      · exact failsWithin_ok _
      · exact ih

theorem failsWithin_listedState
    (jobId : String)
    (body : Json.Members) :
    FailsWithin Failure.IsOfService (listedState jobId body) := by
  refine failsWithin_bind (Json.failsWithin_presentElements _) fun jobs => ?_
  refine failsWithin_bind (failsWithin_findJob jobId jobs) fun found => ?_
  cases found with
  | none => exact failsWithin_ok none
  | some job =>
      exact failsWithin_bind (Json.failsWithin_extract _ _) fun state => failsWithin_ok _

theorem failsWithin_firstTaskState
    (nodes : List Json) :
    FailsWithin Failure.IsOfService (firstTaskState nodes) := by
  induction nodes with
  | nil => exact failsWithin_ok none
  | cons node rest ih =>
      refine failsWithin_bind (Json.failsWithin_member _ _) fun held => ?_
      refine failsWithin_bind (Json.failsWithin_presentValues _) fun tasks => ?_
      cases tasks with
      | nil => exact ih
      | cons task others =>
          exact failsWithin_bind (Json.failsWithin_extractOr _ _ _) fun state => failsWithin_ok _

theorem failsWithin_runningState
    (body : Json.Members) :
    FailsWithin Failure.IsOfService (runningState body) :=
  failsWithin_bind (Json.failsWithin_presentValues _) failsWithin_firstTaskState

theorem failsWithin_findRecord
    (jobId statePath stateField : String)
    (tasks : List Json) :
    FailsWithin Failure.IsOfService (findRecord jobId statePath stateField tasks) := by
  induction tasks with
  | nil => exact failsWithin_ok none
  | cons task rest ih =>
      refine failsWithin_bind (Json.failsWithin_member _ _) fun id => ?_
      split
      · exact failsWithin_bind (Json.failsWithin_extractOr _ _ _) fun state => failsWithin_ok _
      · exact ih

/-! ## The wait -/

section Parts

variable {conduct : Conduct} {ctx : ScenarioContext} {declared : List ResourceRef}
  {settings : JobSettings}

theorem conforms_observe
    {jobId : String} {accepted : List JobState}
    (hfails : conduct.CoversHalf ctx declared needed)
    (hread : conduct.Reads) :
    Conforms conduct (observe ctx jobId accepted) := by
  have hrollup := failsWithin_serving hfails (List.mem_cons_self : Capability.rollupJobs ∈ needed)
  have hfield : FailsWithin conduct.Fails (ctx.serving Capability.taskStateField) :=
    failsWithin_serving hfails (by simp [needed])
  refine conforms_bind (conforms_liftM hrollup) fun rollup => ?_
  refine conforms_bind (conforms_liftM hfield) fun row => ?_
  refine conforms_bind (conforms_judging (failsWithin_textAt _ _)) fun field => ?_
  refine conforms_bind (conforms_judging (failsWithin_textAt _ _)) fun jobPath => ?_
  refine conforms_bind (conforms_call (hread rfl)) fun jobs => ?_
  split
  · exact conforms_pure _
  refine conforms_bind (conforms_judging (failsWithin_object jobs)) fun body => ?_
  refine conforms_bind (conforms_judging (failsWithin_listedState _ _)) fun listed => ?_
  refine conforms_bind (conforms_judging (failsWithin_textAt _ _)) fun actions => ?_
  refine conforms_bind (conforms_call (hread rfl)) fun nodes => ?_
  split
  · exact conforms_pure _
  refine conforms_bind (conforms_judging (failsWithin_object nodes)) fun body => ?_
  refine conforms_bind (conforms_judging (failsWithin_runningState _)) fun running => ?_
  refine conforms_bind (conforms_call (hread rfl)) fun cluster => ?_
  split
  · exact conforms_pure _
  refine conforms_bind (conforms_judging (failsWithin_object cluster)) fun body => ?_
  refine conforms_bind (conforms_judging (Json.failsWithin_extractOr _ _ _)) fun tasks => ?_
  refine conforms_bind (conforms_judging (failsWithin_textAt _ _)) fun taskName => ?_
  refine conforms_bind (conforms_judging (Json.failsWithin_elements _)) fun records => ?_
  exact conforms_bind (conforms_judging (failsWithin_findRecord _ _ _ _)) fun record =>
    conforms_pure _

theorem conforms_awaitRunning
    (hfails : conduct.CoversHalf ctx declared needed)
    (hread : conduct.Reads)
    (hrule : conduct.outage ≠ .endsAtOnce)
    (hdeclared : ⟨settings.jobId, "job"⟩ ∈ declared) :
    Conforms conduct (awaitRunning settings ctx) := by
  refine conforms_liftM_bind (failsWithin_resource hfails hdeclared) fun ref _ => ?_
  refine conforms_bind (Poll.conforms_awaitConvergence (conforms_observe hfails hread) hrule
    _ _ _ _) fun observation => ?_
  exact conforms_bind (conforms_note _ _ _) fun _ => conforms_pure _

theorem conforms_require
    {request : Request} {attempted : String}
    (hallowed : conduct.permission.Allows [] request) :
    Conforms conduct (require request attempted) := by
  refine conforms_bind (conforms_call hallowed) fun response => ?_
  exact conforms_bind (conforms_judging (failsWithin_requireOk _ _)) fun checked =>
    conforms_judging (failsWithin_object _)

end Parts

/-! ## The halves -/

section Halves

variable {conduct : Conduct} {ctx : ScenarioContext} {settings : JobSettings}
  {table : CapabilityTable}

theorem conforms_create
    (hfails : conduct.CoversHalf ctx (scenario settings table).resources needed)
    (hwrite : conduct.Writes)
    (hrule : conduct.outage ≠ .endsAtOnce) :
    Conforms conduct (create settings ctx) := by
  have hsource : (⟨sourceIndex, "index"⟩ : ResourceRef) ∈ (scenario settings table).resources :=
    List.mem_cons_of_mem _ List.mem_cons_self
  have hrollup := failsWithin_serving hfails (List.mem_cons_self : Capability.rollupJobs ∈ needed)
  refine conforms_liftM_bind (failsWithin_resource hfails List.mem_cons_self) fun ref _ => ?_
  refine conforms_liftM_bind (failsWithin_resource hfails hsource) fun source _ => ?_
  refine conforms_bind (conforms_liftM hrollup) fun rollup => ?_
  refine conforms_bind (conforms_query (by simp) (by simp)) fun year => ?_
  refine conforms_bind (conforms_require (hwrite _ _)) fun bulk => ?_
  refine conforms_bind (conforms_judging (failsWithin_check _ _)) fun _ => ?_
  refine conforms_bind (conforms_judging (failsWithin_textAt _ _)) fun jobPath => ?_
  refine conforms_bind (conforms_require (hwrite _ _)) fun created => ?_
  refine conforms_bind (conforms_judging (failsWithin_check _ _)) fun _ => ?_
  refine conforms_bind (conforms_require (hwrite _ _)) fun started => ?_
  refine conforms_bind (conforms_judging (failsWithin_check _ _)) fun _ => ?_
  exact conforms_bind (conforms_awaitRunning hfails hwrite.reads hrule List.mem_cons_self)
    fun _ => conforms_pure _

theorem conforms_verify
    (hfails : conduct.CoversHalf ctx (scenario settings table).resources needed)
    (hread : conduct.Reads)
    (hrule : conduct.outage ≠ .endsAtOnce) :
    Conforms conduct (verify settings ctx) := by
  refine conforms_bind (Health.conforms_await (failsWithin_health hfails) hread) fun _ => ?_
  exact conforms_bind (conforms_awaitRunning hfails hread hrule List.mem_cons_self)
    fun _ => conforms_pure _

end Halves

end BackgroundJob
end RestartCheck
