import RestartCheck.Proofs.Job.Convergence
import RestartCheck.Proofs.Job.Verdict
import RestartCheck.Proofs.Migration.Classification
import RestartCheck.Proofs.Poll.Crash
import RestartCheck.Proofs.Scenario.Shapes
import RestartCheck.Proofs.Version.Writing

/-!
# Crashes inside of a poll

The attempts that the built-in scenarios poll are the rounds of a background job, the search for
hits, the stats of the watcher and the detection of what needs migration.  Whatever the service
answers, an attempt comes to an end, and what it got decides whether it ends in order.

**Results.**
* `BackgroundJob.stumbles_observe`, `Watcher.stumbles_enoughHits`, `Watcher.stumbles_nodesInState`,
  `Migration.stumbles_settled`: the answers that each attempt cannot read.
* `ends_in_order_iff_readable`: how an attempt ends.
-/

namespace RestartCheck

open RestartCheck.Action Trace

/-! ## The attempts of the scenarios -/

namespace BackgroundJob

/-- The answer is unreadable for a round: the job listing, the list of tasks and the cluster state
each have a shape of their own. -/
def IsUnreadable
    (jobId : String)
    (exchange : Exchange) : Prop :=
  (exchange.request = jobRequest jobId ∧ exchange.IsUnreadable HasMalformedJobs) ∨
    (exchange.request = tasksRequest ∧ exchange.IsUnreadable HasMalformedNodes) ∨
    (exchange.request = metadataRequest ∧ exchange.IsUnreadable (HasMalformedRecords jobId))

section Round

variable {jobId : String}

theorem jobRequest_ne_tasksRequest : jobRequest jobId ≠ tasksRequest := by
  intro heq
  cases congrArg Request.params heq

theorem tasksRequest_ne_metadataRequest : tasksRequest ≠ metadataRequest := by
  intro heq
  cases congrArg Request.params heq

theorem jobRequest_ne_metadataRequest : jobRequest jobId ≠ metadataRequest := by
  intro heq
  have hpath := congrArg (fun request => (Request.path request).toList.take 3) heq
  simp [jobRequest, metadataRequest] at hpath

theorem isUnreadable_jobRequest_iff
    {response : Response} :
    IsUnreadable jobId ⟨jobRequest jobId, .ok response⟩ ↔
      response.ok = true ∧ response.IsUnreadable HasMalformedJobs := by
  simp [IsUnreadable, isUnreadable_ok_iff, jobRequest_ne_tasksRequest,
    jobRequest_ne_metadataRequest]

theorem isUnreadable_tasksRequest_iff
    {response : Response} :
    IsUnreadable jobId ⟨tasksRequest, .ok response⟩ ↔
      response.ok = true ∧ response.IsUnreadable HasMalformedNodes := by
  simp [IsUnreadable, isUnreadable_ok_iff, jobRequest_ne_tasksRequest.symm,
    tasksRequest_ne_metadataRequest]

theorem isUnreadable_metadataRequest_iff
    {response : Response} :
    IsUnreadable jobId ⟨metadataRequest, .ok response⟩ ↔
      response.ok = true ∧ response.IsUnreadable (HasMalformedRecords jobId) := by
  simp [IsUnreadable, isUnreadable_ok_iff, jobRequest_ne_metadataRequest.symm,
    tasksRequest_ne_metadataRequest.symm]

theorem stumblesWhen_stage
    {unreadable : Exchange → Prop} {condition : Prop} {source : String} {response : Response}
    {next : Action (PollOutcome JobObservation)}
    (hnext : StumblesWhen condition unreadable next) :
    StumblesWhen (response.ok = true ∧ condition) unreadable
      (match refused? source response with
        | some outcome => return outcome
        | none => next) := by
  cases hrefused : refused? source response with
  | none => exact hnext.congr (by simp [refused?_eq_none_iff.mp hrefused])
  | some outcome =>
      have hnot : ¬response.ok = true := by
        intro hok
        cases hrefused.symm.trans (refused?_eq_none_iff.mpr hok)
      refine (stumblesWhen_pure ?_).congr (by simp [hnot])
      unfold refused? at hrefused
      split at hrefused
      · cases hrefused
        exact .pending _
      · cases hrefused
        exact .fatal _ _

theorem endsInOrder_judge
    (jobId : String)
    (accepted : List JobState)
    (listed running : Option JobState)
    (tasks : Json)
    (record : Option TaskRecord) :
    EndsInOrder (.ok (judge jobId accepted listed running tasks record)) := by
  unfold judge
  split
  · exact .fatal _ _
  · simp only
    split
    · exact .converged _
    · exact .pending _

theorem hasMalformedRecords_iff
    {body : Json.Members} :
    HasMalformedRecords jobId body ↔
      False ∨ ∃ tasks,
        (Json.object body).extractOr "metadata.persistent_tasks.tasks" (.array []) = .ok tasks ∧
        (tasks.isSequence = false ∨ ∃ records, tasks.elements = .ok records ∧
          FirstIs (IsOtherRecord jobId) (fun record => record.isObject = false) records) := by
  rw [false_or]
  constructor
  · rintro ⟨tasks, hfind, hmalformed⟩
    exact ⟨tasks, Json.extractOr_eq_ok_iff.mpr ⟨_, hfind, rfl⟩, hmalformed⟩
  · rintro ⟨tasks, htasks, hmalformed⟩
    refine ⟨tasks, Json.find_of_extractOr htasks ?_, hmalformed⟩
    rintro rfl
    rcases hmalformed with hsequence | ⟨records, hrecords, hfirst⟩
    · cases hsequence
    · cases hrecords
      exact not_firstIs_nil hfirst

/-- There are no background jobs at the version that answers requests, and this cannot be told,
because the version is not written. -/
def IsUntold (ctx : ScenarioContext) : Prop :=
  ∃ v, ctx.config.servingVersion = some v ∧ v.IsUnwritten ∧ v < Capability.rollupGate

theorem crashesWhen_rollupJobs
    (ctx : ScenarioContext) :
    CrashesWhen (IsUntold ctx)
      (Capability.standard.resolve Capability.rollupJobs ctx.config.servingVersion) := by
  constructor
  · rintro ⟨v, hversion, hunwritten, hbelow⟩
    rw [hversion, Capability.rollupJobs_of_lt hbelow]
    exact crashes_error
      (Failure.missing_eq_iff.mpr (.unwritten rfl hunwritten) ▸ .unwritten)
  · intro htold failure hfailed
    obtain ⟨v, hversion, hbelow⟩ := Capability.lt_of_rollupJobs_eq_error hfailed
    have hmissing := CapabilityTable.eq_missing_of_resolve hfailed
    cases Failure.missing_eq_iff.mp hmissing.symm with
    | unsupported _ => rfl
    | unwritten hknown hunwritten =>
        cases hversion.symm.trans hknown
        exact absurd ⟨_, hversion, hunwritten, hbelow⟩ htold

theorem stumbles_observe
    {ctx : ScenarioContext}
    (htable : ctx.harness.table = Capability.standard)
    (jobId : String)
    (accepted : List JobState) :
    StumblesWhen (IsUntold ctx) (IsUnreadable jobId) (observe ctx jobId accepted) := by
  unfold observe ScenarioContext.serving
  rw [htable]
  refine stumblesWhen_liftM_bind_of_stumbles (crashesWhen_rollupJobs ctx) fun rollup hrollup => ?_
  obtain ⟨row, hrow⟩ := Capability.exists_taskStateField_of_rollupJobs hrollup
  refine stumblesWhen_known_bind hrow ?_
  cases Capability.rollupJobs_of_resolve hrollup
  cases Capability.taskStateField_of_resolve hrow
  refine stumblesWhen_checked_bind (failsWithin_ok _) fun field hfield => ?_
  cases hfield
  refine stumblesWhen_checked_bind (failsWithin_ok _) fun jobPath hjobPath => ?_
  cases hjobPath
  refine stumblesWhen_call_bind fun jobs => ?_
  refine (stumblesWhen_stage (stumblesWhen_object_bind _ fun jobsBody => ?_)).congr
    isUnreadable_jobRequest_iff.symm
  refine stumblesWhen_liftM_bind_of_stumbles (crashesWhen_listedState jobId jobsBody)
    fun listed _ => ?_
  refine stumblesWhen_checked_bind (failsWithin_ok _) fun actions hactions => ?_
  cases hactions
  refine stumblesWhen_call_bind fun nodes => ?_
  refine (stumblesWhen_stage (stumblesWhen_object_bind _ fun nodesBody => ?_)).congr
    isUnreadable_tasksRequest_iff.symm
  refine stumblesWhen_liftM_bind_of_stumbles (crashesWhen_runningState nodesBody)
    fun running _ => ?_
  refine stumblesWhen_call_bind fun cluster => ?_
  refine (stumblesWhen_stage (stumblesWhen_object_bind _ fun body => ?_)).congr
    isUnreadable_metadataRequest_iff.symm
  refine (stumblesWhen_liftM_bind (crashesWhen_false (Json.failsWithin_checks_extractOr _ _
    (by decide))) fun tasks _ => ?_).congr hasMalformedRecords_iff.symm
  refine stumblesWhen_known_bind rfl ?_
  refine stumblesWhen_liftM_bind (Json.crashesWhen_elements tasks) fun records _ => ?_
  refine stumblesWhen_liftM_bind_of_stumbles
    (crashesWhen_findRecord jobId _ (isPlainPath_statePath _) records) fun record _ => ?_
  exact stumblesWhen_pure (endsInOrder_judge _ _ _ _ _ _)

end Round

end BackgroundJob

namespace Watcher

/-- An answer that is neither put off nor refused is one that reports success. -/
theorem accepted_iff_ok
    {response : Response} {putOff condition : Prop}
    (hok : response.ok = true → ¬putOff) :
    (¬putOff ∧ ¬(!response.ok) = true ∧ condition) ↔ response.ok = true ∧ condition := by
  cases hresponse : response.ok with
  | false => simp
  | true => simp [hok hresponse]

theorem endsInOrder_hitsOutcome
    {minHits : Int} {hits : Except Failure Int} {outcome : PollOutcome Int}
    (hread : hitsOutcome minHits hits = .ok outcome) :
    EndsInOrder (.ok outcome) := by
  unfold hitsOutcome at hread
  split at hread
  · cases hread
    split
    · exact .converged _
    · exact .pending _
  · cases hread
    exact .fatal _ _
  · cases hread

/-- Nothing that an answer may hold makes counting the hits crash. -/
theorem stumbles_enoughHits
    (index : String)
    (minHits : Int) :
    StumblesWhen False (Exchange.IsUnreadable fun _ => False) (enoughHits index minHits) := by
  refine stumblesWhen_call_bind fun response => ?_
  refine (stumblesWhen_unless (.pending _) fun _ => stumblesWhen_unless (.fatal _ _) fun _ =>
    stumblesWhen_object_bind (fun _ => False) fun body => ?_).congr ?_
  · intro before after events ending hrun _
    obtain ⟨rfl, rfl, _⟩ := runs_liftM_iff.mp hrun
    refine ⟨False.elim, fun _ => fits_nil ?_⟩
    cases hread : hitsOutcome minHits (totalHits (.object body)) with
    | ok outcome => exact endsInOrder_hitsOutcome hread
    | error failure => exact .raised (failsWithin_checks_hitsOutcome _ _ failure hread)
  · rw [isUnreadable_ok_iff]
    exact accepted_iff_ok fun hok => by
      rw [Response.ok_iff] at hok
      omega

theorem stumbles_nodesInState
    (statsPath expected : String) :
    StumblesWhen False (Exchange.IsUnreadable HasMalformedStats)
      (nodesInState statsPath expected) := by
  refine stumblesWhen_call_bind fun response => ?_
  refine (stumblesWhen_unless (.pending _) fun _ => stumblesWhen_unless (.fatal _ _) fun _ =>
    stumblesWhen_object_bind HasMalformedStats fun body => ?_).congr ?_
  · refine stumblesWhen_liftM_bind_of_stumbles (crashesWhen_nodeStates body) fun states _ => ?_
    split
    · exact stumblesWhen_pure (.converged _)
    · exact stumblesWhen_pure (.pending _)
  · rw [isUnreadable_ok_iff]
    exact accepted_iff_ok fun hok => by
      rw [Response.ok_iff] at hok
      omega

theorem finishes_enoughHits
    (serve : Request → Response)
    (index : String)
    (minHits : Int) :
    Finishes serve (enoughHits index minHits) := by
  refine finishes_bind (finishes_call _) fun response => ?_
  split
  · exact finishes_pure _
  split
  · exact finishes_pure _
  · exact finishes_bind (finishes_ofExcept _) fun _ => finishes_ofExcept _

theorem finishes_nodesInState
    (serve : Request → Response)
    (statsPath expected : String) :
    Finishes serve (nodesInState statsPath expected) := by
  refine finishes_bind (finishes_call _) fun response => ?_
  split
  · exact finishes_pure _
  split
  · exact finishes_pure _
  · refine finishes_bind (finishes_ofExcept _) fun _ =>
      finishes_bind (finishes_ofExcept _) fun _ => ?_
    split
    · exact finishes_pure _
    · exact finishes_pure _

end Watcher

namespace Migration

/-- Reading the answer of a detection crashes when it is nested too deeply. -/
theorem crashesWhen_reportedIn
    (response : Response) :
    CrashesWhen (response.ok = true ∧ response.IsUnreadable fun _ => False)
      (reportedIn response) := by
  cases hok : response.ok with
  | false =>
      refine CrashesWhen.congr (crashesWhen_false ?_) (by simp)
      unfold reportedIn
      rw [hok]
      split
      · exact failsWithin_error (by rfl)
      · exact failsWithin_error (by rfl)
  | true =>
      have hready : ¬response.status = 503 := by
        rw [Response.ok_iff] at hok
        omega
      have hread : reportedIn response = response.object >>= reportedOf := by
        unfold reportedIn
        rw [if_neg hready, hok]
        rfl
      rw [hread]
      refine (crashesWhen_bind_of_checked (crashesWhen_object response) fun body _ => ?_).congr
        (by simp [Response.IsUnreadable])
      unfold reportedOf
      split
      · exact failsWithin_ok _
      · exact failsWithin_error (by rfl)

section Settled

variable {detected : Except Failure (OrderedMap ResourceRef MigrationStatus)}

theorem crashes_settledEnd
    (hcrash : Crashes detected) :
    Crashes (settledEnd detected) := by
  obtain ⟨failure, rfl, hfailure⟩ := hcrash
  cases hfailure with
  | _ => exact crashes_error (by constructor)

theorem endsInOrder_settledEnd
    (hchecked : FailsWithin Failure.IsOfChecks detected) :
    EndsInOrder (settledEnd detected) := by
  unfold settledEnd
  split
  · unfold settledOutcome
    split
    · exact .pending _
    · exact .converged _
  · exact .pending _
  · next failure _ => exact .raised (hchecked failure rfl)

/-- A wait for migration puts off what is temporarily unavailable, and lets other failures out. -/
theorem stumbles_settled
    (path : String)
    (refs : List ResourceRef) :
    StumblesWhen False (Exchange.IsUnreadable fun _ => False) (settled path refs) := by
  intro before after events ending hrun hanswered
  refine ⟨False.elim, fun _ => ?_⟩
  obtain ⟨detected, hdetected, rfl⟩ := runs_settled_iff.mp hrun
  obtain ⟨answer, hends⟩ := runs_detect_iff.mp hdetected
  have hexchanges : exchanges events = [⟨assistanceRequest path, answer⟩] := by
    rcases hends with ⟨_, _, rfl, _⟩ | ⟨_, _, rfl, _⟩
    · rfl
    · rfl
  obtain ⟨response, hresponse⟩ :=
    hanswered ⟨_, answer⟩ (by rw [hexchanges]; exact List.mem_cons_self)
  cases hresponse
  have hread := crashesWhen_reportedIn response
  rw [hexchanges]
  unfold Fits
  simp only [List.mem_singleton, exists_eq_left, forall_eq, isUnreadable_ok_iff]
  by_cases hunreadable : response.ok = true ∧ response.IsUnreadable fun _ => False
  · refine Or.inl ⟨hunreadable, crashes_settledEnd ?_⟩
    obtain ⟨failure, hfailed, hcrash⟩ := hread.crash hunreadable
    rcases hends with ⟨known, hknown, _, rfl, _⟩ | ⟨reported, hreported, _⟩
    · cases hfailed.symm.trans hknown
      exact crashes_error hcrash
    · cases hfailed.symm.trans hreported
  · refine Or.inr ⟨hunreadable, endsInOrder_settledEnd fun failure hfailed => ?_⟩
    rcases hends with ⟨known, hknown, _, rfl, _⟩ | ⟨reported, _, _, hclassified⟩
    · cases hfailed
      exact hread.checked hunreadable failure hknown
    · rw [hfailed] at hclassified
      obtain ⟨message, details, rfl⟩ := isFatal_of_runs_classifyAll hclassified
      rfl

theorem finishes_settled
    (serve : Request → Response)
    (path : String)
    (refs : List ResourceRef) :
    Finishes serve (settled path refs) := by
  rw [settled_eq]
  refine finishes_bind (finishes_attempt ?_) fun detected => finishes_ofExcept _
  refine finishes_bind (finishes_call _) fun response => finishes_bind (finishes_ofExcept _)
    fun reported => finishes_bind (finishes_note _ _ _) fun _ before => ?_
  obtain ⟨result, after, hrun⟩ := exists_runs_classifyAll reported [] refs before
  exact ⟨[], result, after, hrun, served_nil⟩

end Settled

end Migration

/-! ## How an attempt ends -/

/-- The attempts that the built-in scenarios poll, with the case in which each is broken off before
any request, and with the answers that are unreadable for each. -/
inductive IsPolled : {α : Type} → Action (PollOutcome α) → Prop → (Exchange → Prop) → Prop
  | settled (path : String) (refs : List ResourceRef) :
      IsPolled (Migration.settled path refs) False (Exchange.IsUnreadable fun _ => False)
  | enoughHits (index : String) (minHits : Int) :
      IsPolled (Watcher.enoughHits index minHits) False (Exchange.IsUnreadable fun _ => False)
  | nodesInState (statsPath expected : String) :
      IsPolled (Watcher.nodesInState statsPath expected) False
        (Exchange.IsUnreadable Watcher.HasMalformedStats)
  | observe
      {ctx : ScenarioContext}
      (htable : ctx.harness.table = Capability.standard)
      (jobId : String)
      (accepted : List JobState) :
      IsPolled (BackgroundJob.observe ctx jobId accepted) (BackgroundJob.IsUntold ctx)
        (BackgroundJob.IsUnreadable jobId)

section Endings

variable {α : Type} {attempt : Action (PollOutcome α)} {untold : Prop}
  {unreadable : Exchange → Prop}

theorem IsPolled.stumbles
    (hpolled : IsPolled attempt untold unreadable) :
    StumblesWhen untold unreadable attempt := by
  cases hpolled with
  | settled path refs => exact Migration.stumbles_settled path refs
  | enoughHits index minHits => exact Watcher.stumbles_enoughHits index minHits
  | nodesInState statsPath expected => exact Watcher.stumbles_nodesInState statsPath expected
  | observe htable jobId accepted => exact BackgroundJob.stumbles_observe htable jobId accepted

theorem IsPolled.finishes
    (hpolled : IsPolled attempt untold unreadable)
    (serve : Request → Response) :
    Finishes serve attempt := by
  cases hpolled with
  | settled path refs => exact Migration.finishes_settled serve path refs
  | enoughHits index minHits => exact Watcher.finishes_enoughHits serve index minHits
  | nodesInState statsPath expected => exact Watcher.finishes_nodesInState serve statsPath expected
  | observe htable jobId accepted => exact BackgroundJob.finishes_observe serve _ jobId accepted

/-- **Answers of unexpected shape.**  Whatever the service answers, an attempt that a scenario polls
comes to an end.  It ends with an outcome or with a failure of the checks exactly when no answer
that it got is unreadable for it; after an unreadable answer it crashes.  The round of a background
job also crashes, before any request, when there are no such jobs at a version that cannot be
written. -/
theorem ends_in_order_iff_readable
    (attempt : Action (PollOutcome α))
    (untold : Prop)
    (unreadable : Exchange → Prop)
    (hpolled : IsPolled attempt untold unreadable) :
    (∀ serve, Finishes serve attempt) ∧
    ∀ before events ending after,
      attempt.Runs before events ending after → Answered events →
        (EndsInOrder ending ↔ ¬untold ∧ ∀ exchange ∈ exchanges events, ¬unreadable exchange) ∧
        (¬EndsInOrder ending → Crashes ending) := by
  exact ⟨hpolled.finishes, fun _ _ _ _ hrun hanswered =>
    hpolled.stumbles.ends_iff hrun hanswered⟩

end Endings

/-! ### A cluster state without task records -/

namespace BackgroundJob

/-- The failure of a value that cannot be stepped through. -/
def isWrongType {α : Type} : Except Failure α → Bool
  | .error (.defect .wrongType) => true
  | _ => false

theorem eq_of_isWrongType
    {α : Type} {known : Except Failure α}
    (hknown : isWrongType known = true) :
    known = .error (.defect .wrongType) := by
  unfold isWrongType at hknown
  split at hknown
  · rfl
  · cases hknown

/-- A service without jobs and tasks, whose persistent task records are null. -/
def withoutRecords (request : Request) : Response :=
  if request.path = metadataRequest.path then
    ⟨200, "\x7b\"metadata\": \x7b\"persistent_tasks\": \x7b\"tasks\": null\x7d\x7d\x7d"⟩
  else ⟨200, "\x7b\x7d"⟩

theorem exists_runs_observe_withoutRecords :
    ∃ events after,
      (observe standardContext "rollup-job-test" [.started]).Runs {} events
        (.error (.defect .wrongType)) after ∧
      Served withoutRecords events := by
  obtain ⟨events, after, hrun, hserved⟩ := exists_runs_observe standardContext withoutRecords
    "rollup-job-test" [.started] {} rfl rfl rfl
  have hverdict : verdict "rollup-job-test"
      (Capability.stateFieldAt standardContext.config.servingVersion) [.started]
      (withoutRecords (jobRequest "rollup-job-test")) (withoutRecords tasksRequest)
      (withoutRecords metadataRequest) = .error (.defect .wrongType) :=
    eq_of_isWrongType (by decide +kernel)
  rw [hverdict] at hrun
  exact ⟨events, after, hrun, hserved⟩

end BackgroundJob

/-- A round that crashes has got an unreadable answer. -/
theorem unreadable_in_withoutRecords :
    ∃ events after,
      (BackgroundJob.observe BackgroundJob.standardContext "rollup-job-test" [.started]).Runs {}
        events (.error (.defect .wrongType)) after ∧
      Answered events ∧
      ∃ exchange ∈ exchanges events,
        BackgroundJob.IsUnreadable "rollup-job-test" exchange := by
  obtain ⟨events, after, hrun, hserved⟩ := BackgroundJob.exists_runs_observe_withoutRecords
  have hanswered := Answered.of_served hserved
  have hends := ((ends_in_order_iff_readable _ _ _ (.observe rfl "rollup-job-test" [.started])).2
    _ _ _ _ hrun hanswered).1
  have htold : ¬BackgroundJob.IsUntold BackgroundJob.standardContext := by
    rintro ⟨v, hversion, _, hbelow⟩
    cases hversion
    exact absurd hbelow (by decide)
  refine ⟨events, after, hrun, hanswered, ?_⟩
  by_contra hreadable
  have hordered := hends.mpr ⟨htold, fun exchange hmem hunreadable =>
    hreadable ⟨exchange, hmem, hunreadable⟩⟩
  exact (crashes_error .wrongType).not_endsInOrder hordered

/-- Every request of the round is answered, and still the round crashes. -/
theorem crashes_in_withoutRecords :
    ∃ events after,
      (BackgroundJob.observe BackgroundJob.standardContext "rollup-job-test" [.started]).Runs {}
        events (.error (.defect .wrongType)) after ∧
      Answered events ∧
      ¬EndsInOrder (.error (.defect .wrongType) : Except Failure (PollOutcome JobObservation)) := by
  obtain ⟨events, after, hrun, hserved⟩ := BackgroundJob.exists_runs_observe_withoutRecords
  exact ⟨events, after, hrun, Answered.of_served hserved,
    (crashes_error .wrongType).not_endsInOrder⟩

end RestartCheck
