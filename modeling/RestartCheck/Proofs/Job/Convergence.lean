import RestartCheck.Proofs.Effect.Rehearsed
import RestartCheck.Proofs.Job.Round

/-!
# When a background job counts as running

The wait for a background job repeats rounds of observing it.  It only ends normally after a round
in which all three places report the job in an accepted state, and answers of different rounds are
never put together.

**Results.**
* `agrees_of_runs_awaitRunning`: the evidence behind a normal end, and what a request that fails for
  now does to the wait.
-/

namespace RestartCheck
namespace BackgroundJob

open RestartCheck.Action Trace

section Wait

variable {settings : JobSettings} {ctx : ScenarioContext} {before after : Session}
  {events : List Event} {result : Except Failure JobObservation}

/-- The poll behind the wait for a job. -/
def rounds
    (settings : JobSettings)
    (ctx : ScenarioContext) : Action JobObservation :=
  awaitConvergence ctx.harness.patience (observe ctx settings.jobId settings.acceptedStates)
    settings.poll.interval settings.poll.timeout
    (waitDescription settings.jobId settings.acceptedStates)

/-- The wait is a poll of rounds, with a log entry when it has converged. -/
theorem rounds_of_runs_awaitRunning
    (hrun : (awaitRunning settings ctx).Runs before events result after) :
    (∃ observation polled fields,
      result = .ok observation ∧
      events = polled ++ [noted after .info "rollup_job_converged" fields] ∧
      (rounds settings ctx).Runs before polled (.ok observation) after)
    ∨
    (∃ failure,
      result = .error failure ∧
      (events = [] ∨ (rounds settings ctx).Runs before events (.error failure) after)) := by
  rcases runs_liftM_bind_iff.mp hrun with ⟨ref, href, hpolled⟩ | ⟨failure, _, rfl, rfl, _⟩
  · obtain ⟨rfl, _⟩ := ScenarioContext.resource_eq_ok_iff.mp href
    rcases runs_bind_iff.mp hpolled with
      ⟨observation, middle, polled, told, rfl, hpoll, htold⟩ | ⟨failure, rfl, hpoll⟩
    · obtain ⟨rest, rfl, hend⟩ := runs_note_bind_iff.mp htold
      obtain ⟨rfl, rfl, rfl⟩ := runs_pure_iff.mp hend
      exact Or.inl ⟨observation, polled, _, rfl, rfl, hpoll⟩
    · exact Or.inr ⟨failure, rfl, Or.inr hpoll⟩
  · exact Or.inr ⟨failure, rfl, Or.inl rfl⟩

theorem ofCalls_isFleeting : Poll.OfCalls IsFleeting := by
  rintro event ⟨request, answer, rfl, _⟩
  exact ⟨request, answer, rfl⟩

theorem timed_of_runs_rounds
    (hrun : (rounds settings ctx).Runs before events result after) :
    (events = [] ∧ result = .error Poll.unusable) ∨
    ∃ start rest,
      events = ⟨.now, start⟩ :: rest ∧
      Followed IsFleeting (Poll.IsTimed settings.poll.timeout start) rest :=
  Poll.timed_of_runs_awaitConvergence ofCalls_isFleeting (retries_observe _ _ _) hrun

end Wait

/-- **No false convergence.**  The wait for a background job ends normally only when its last three
exchanges are one round: the job listing, the list of tasks and the cluster state, each answered
with success and each with an accepted state of the job, the last under the field of the serving
version. However the wait ends, a request that is answered as unavailable or does not reach the
service is followed by a clock reading that has reached the timeout, or else by a sleep. -/
theorem agrees_of_runs_awaitRunning
    (settings : JobSettings)
    (ctx : ScenarioContext)
    (before after : Session)
    (events : List Event)
    (result : Except Failure JobObservation)
    (htable : ctx.harness.table = Capability.standard)
    (hrun : (awaitRunning settings ctx).Runs before events result after) :
    (∀ observation, result = .ok observation →
      ∃ earlier jobs nodes cluster,
        exchanges events = earlier ++ [jobs, nodes, cluster] ∧
        Exchange.Accepted (jobRequest settings.jobId)
          (ListsJob settings.jobId settings.acceptedStates) jobs ∧
        Exchange.Accepted tasksRequest (RunsTask settings.acceptedStates) nodes ∧
        Exchange.Accepted metadataRequest
          (RecordsJob settings.jobId (Capability.stateFieldAt ctx.config.servingVersion)
            settings.acceptedStates) cluster) ∧
    (events = [] ∨
      ∃ start rest,
        events = ⟨.now, start⟩ :: rest ∧
        Followed IsFleeting (Poll.IsTimed settings.poll.timeout start) rest) := by
  rcases rounds_of_runs_awaitRunning hrun with
    ⟨observation, polled, fields, rfl, rfl, hpoll⟩ | ⟨failure, rfl, rfl | hpoll⟩
  · constructor
    · intro _ _
      obtain ⟨session, last, front, hlast, hexchanges⟩ :=
        Poll.exists_converged_of_runs_awaitConvergence hpoll
      obtain ⟨jobs, nodes, cluster, hround, hagrees⟩ := agrees_of_runs_observe htable hlast
      refine ⟨front, jobs, nodes, cluster, ?_, hagrees⟩
      rw [exchanges_append, hexchanges, hround]
      exact List.append_nil _
    · rcases timed_of_runs_rounds hpoll with ⟨_, hresult⟩ | ⟨start, rest, rfl, htimed⟩
      · cases hresult
      · refine Or.inr ⟨start, rest ++ [noted after .info "rollup_job_converged" fields], rfl, ?_⟩
        refine htimed.append (fun _ hend => hend.append _) (followed_of_forall_not ?_)
        rintro event hmem ⟨request, answer, rfl, _⟩
        simp [noted] at hmem
  · exact ⟨by simp, Or.inl rfl⟩
  · refine ⟨by simp, ?_⟩
    rcases timed_of_runs_rounds hpoll with ⟨rfl, _⟩ | htimed
    · exact Or.inl rfl
    · exact Or.inr htimed

/-- The scenario after the upgrade to a version below the gate, with the capabilities built in. -/
def standardContext : ScenarioContext where
  config := ⟨.postUpgrade, ⟨6, 3, 0, 99⟩, some ⟨6, 3, 2, 99⟩⟩
  harness :=
    ⟨Capability.standard, .string Harness.standardAssistancePath, Harness.standardUpgradePath, 2⟩
  declared := (scenario {} Capability.standard).toDeclaration

/-- A service that is unavailable at first, and then reports the job started in all three places. -/
def recovering : Rehearsal where
  routes :=
    [("GET /_xpack/rollup/job/rollup-job-test",
      [{ answer := .ok ⟨503, ""⟩ },
       { answer := .ok ⟨200,
         "\x7b\"jobs\": [\x7b\"config\": \x7b\"id\": \"rollup-job-test\"\x7d, " ++
          "\"status\": \x7b\"job_state\": \"started\"\x7d\x7d]\x7d"⟩ }]),
     ("GET /_tasks",
      [{ answer := .ok ⟨200, "\x7b\"nodes\": \x7b\"n\": \x7b\"tasks\": \x7b\"n:1\": " ++
          "\x7b\"status\": \x7b\"job_state\": \"started\"\x7d\x7d\x7d\x7d\x7d\x7d"⟩ }]),
     ("GET /_cluster/state/metadata",
      [{ answer := .ok ⟨200, "\x7b\"metadata\": \x7b\"persistent_tasks\": \x7b\"tasks\": " ++
          "[\x7b\"id\": \"rollup-job-test\", \"task\": \x7b\"xpack/rollup/job\": " ++
          "\x7b\"status\": \x7b\"job_state\": \"started\"\x7d\x7d\x7d\x7d]\x7d\x7d\x7d"⟩ }])]

theorem agrees_in_recovering :
    ∃ events earlier jobs nodes cluster observation,
      (awaitRunning {} standardContext).Runs {} events (.ok observation) {} ∧
      exchanges events = earlier ++ [jobs, nodes, cluster] ∧
      Exchange.Accepted (jobRequest "rollup-job-test")
        (ListsJob "rollup-job-test" [.started, .indexing]) jobs ∧
      Exchange.Accepted tasksRequest (RunsTask [.started, .indexing]) nodes ∧
      Exchange.Accepted metadataRequest
        (RecordsJob "rollup-job-test" "status" [.started, .indexing]) cluster := by
  obtain ⟨events, observation, hrun⟩ : CanSucceed (awaitRunning {} standardContext) {} {} :=
    canSucceed_of_rehearsal recovering (by decide +kernel)
  obtain ⟨hagrees, _⟩ := agrees_of_runs_awaitRunning _ _ _ _ _ _ rfl hrun
  obtain ⟨earlier, jobs, nodes, cluster, hexchanges, hjobs, hnodes, hcluster⟩ := hagrees _ rfl
  exact ⟨events, earlier, jobs, nodes, cluster, observation, hrun, hexchanges, hjobs, hnodes,
    hcluster⟩

end BackgroundJob
end RestartCheck
