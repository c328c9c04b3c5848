import RestartCheck.Proofs.Effect.Served
import RestartCheck.Proofs.Job.Round

/-!
# The verdict of a round

Against a service that answers every request, a round of observing a background job always comes to
an end, and its three answers decide how.  The verdict is the end of the round as a function of
these answers.

**Results.**
* `finishes_observe`: a round comes to an end against every service.
* `gives_observe`, `exists_runs_observe`: it ends with the verdict on the three answers.
-/

namespace RestartCheck
namespace BackgroundJob

open RestartCheck.Action Trace

/-- What is made of an answer that is not refused. -/
def unlessRefused
    (source : String)
    (response : Response)
    (read : Except Failure (PollOutcome JobObservation)) :
    Except Failure (PollOutcome JobObservation) :=
  match refused? source response with
  | some outcome => .ok outcome
  | none => read

/-- The persistent task records of the cluster, and the one of the job among them. -/
def recordOf
    (jobId field : String)
    (body : Json.Members) : Except Failure (Json × Option TaskRecord) := do
  let tasks ← (Json.object body).extractOr "metadata.persistent_tasks.tasks" (.array [])
  let records ← tasks.elements
  let record ← findRecord jobId (statePath field) field records
  .ok (tasks, record)

/-- The end of a round, given the answers to its three requests. -/
def verdict
    (jobId field : String)
    (accepted : List JobState)
    (jobs nodes cluster : Response) : Except Failure (PollOutcome JobObservation) :=
  unlessRefused "job api" jobs do
    let listed ← jobs.object >>= listedState jobId
    unlessRefused "task list" nodes do
      let running ← nodes.object >>= runningState
      unlessRefused "cluster state" cluster do
        let (tasks, record) ← cluster.object >>= recordOf jobId field
        .ok (judge jobId accepted listed running tasks record)

section Round

variable {serve : Request → Response} {ctx : ScenarioContext} {source : String}

theorem finishes_stage
    {request : Request} {next : Response → Action (PollOutcome JobObservation)}
    (hnext : ∀ response, Finishes serve (next response)) :
    Finishes serve (do
      let response ← call request
      match refused? source response with
      | some outcome => return outcome
      | none => next response) := by
  refine finishes_bind (finishes_call request) fun response => ?_
  split
  · exact finishes_pure _
  · exact hnext response

theorem gives_stage
    {request : Request} {next : Response → Action (PollOutcome JobObservation)}
    {expected : Except Failure (PollOutcome JobObservation)}
    (hnext : Gives serve (next (serve request)) expected) :
    Gives serve (do
      let response ← call request
      match refused? source response with
      | some outcome => return outcome
      | none => next response) (unlessRefused source (serve request) expected) := by
  refine gives_call_bind ?_
  unfold unlessRefused
  split
  · exact gives_pure _
  · exact hnext

/-- A round comes to an end against every service. -/
theorem finishes_observe
    (serve : Request → Response)
    (ctx : ScenarioContext)
    (jobId : String)
    (accepted : List JobState) :
    Finishes serve (observe ctx jobId accepted) := by
  refine finishes_bind (finishes_ofExcept _) fun rollup => finishes_bind (finishes_ofExcept _)
    fun row => finishes_bind (finishes_ofExcept _) fun field =>
      finishes_bind (finishes_ofExcept _) fun jobPath => ?_
  refine finishes_stage fun jobs => ?_
  refine finishes_bind (finishes_ofExcept _) fun jobsBody => finishes_bind (finishes_ofExcept _)
    fun listed => finishes_bind (finishes_ofExcept _) fun actions => ?_
  refine finishes_stage fun nodes => ?_
  refine finishes_bind (finishes_ofExcept _) fun nodesBody =>
    finishes_bind (finishes_ofExcept _) fun running => ?_
  refine finishes_stage fun cluster => ?_
  refine finishes_bind (finishes_ofExcept _) fun body => finishes_bind (finishes_ofExcept _)
    fun tasks => finishes_bind (finishes_ofExcept _) fun taskName =>
      finishes_bind (finishes_ofExcept _) fun records =>
        finishes_bind (finishes_ofExcept _) fun record => finishes_pure _

/-- A round ends with the verdict on its three answers, unless the version has no jobs. -/
theorem gives_observe
    (serve : Request → Response)
    (jobId : String)
    (accepted : List JobState)
    (htable : ctx.harness.table = Capability.standard) :
    Gives serve (observe ctx jobId accepted) (do
      let _ ← ctx.serving Capability.rollupJobs
      let _ ← ctx.serving Capability.taskStateField
      verdict jobId (Capability.stateFieldAt ctx.config.servingVersion) accepted
        (serve (jobRequest jobId)) (serve tasksRequest) (serve metadataRequest)) := by
  unfold observe ScenarioContext.serving verdict recordOf
  rw [htable]
  simp only [bind_assoc]
  refine gives_liftM_bind fun rollup hrollup => gives_liftM_bind fun row hrow => ?_
  cases Capability.rollupJobs_of_resolve hrollup
  cases Capability.taskStateField_of_resolve hrow
  refine gives_known_bind rfl (gives_known_bind rfl (gives_stage ?_))
  refine gives_liftM_bind fun jobsBody _ => gives_liftM_bind fun listed _ => ?_
  refine gives_known_bind rfl (gives_stage ?_)
  refine gives_liftM_bind fun nodesBody _ => gives_liftM_bind fun running _ => ?_
  refine gives_stage ?_
  refine gives_liftM_bind fun body _ => gives_liftM_bind fun tasks _ => ?_
  refine gives_known_bind rfl ?_
  refine gives_liftM_bind fun records _ => gives_liftM_bind fun record _ => ?_
  exact gives_pure _

/-- Where the version has jobs, a round has a run that ends with the verdict. -/
theorem exists_runs_observe
    {rollup row : Json.Members}
    (ctx : ScenarioContext)
    (serve : Request → Response)
    (jobId : String)
    (accepted : List JobState)
    (before : Session)
    (htable : ctx.harness.table = Capability.standard)
    (hrollup : ctx.serving Capability.rollupJobs = .ok rollup)
    (hrow : ctx.serving Capability.taskStateField = .ok row) :
    ∃ events after,
      (observe ctx jobId accepted).Runs before events
        (verdict jobId (Capability.stateFieldAt ctx.config.servingVersion) accepted
          (serve (jobRequest jobId)) (serve tasksRequest) (serve metadataRequest)) after ∧
      Served serve events := by
  obtain ⟨events, ending, after, hrun, hserved⟩ := finishes_observe serve ctx jobId accepted before
  have hending := gives_observe serve jobId accepted htable hrun hserved
  rw [hrollup, hrow] at hending
  obtain rfl := hending
  exact ⟨events, after, hrun, hserved⟩

end Round

end BackgroundJob
end RestartCheck
