import RestartCheck.Proofs.Job.Convergence
import RestartCheck.Proofs.Job.Tasks
import RestartCheck.Proofs.Job.Verdict

/-!
# The verdict and the order of members

A round looks members up by their names, except in the task list, where it takes the first task.  So
its verdict is the same for answers that differ in the order of members only, unless the tasks of
the list disagree.

**Results.**
* `alike_listedState`, `alike_recordOf`, `alike_runningState`: what is read from the three answers.
* `keeps_kind_iff_tasksAgree`: when the verdict does not depend on the order of members.
* `kinds_differ_in_withTasks`: two orders of two tasks with different verdicts.
-/

namespace RestartCheck

/-- The outcomes are of one kind. -/
inductive PollOutcome.SameKind {α : Type} : PollOutcome α → PollOutcome α → Prop
  | converged (value value' : α) : SameKind (.converged value) (.converged value')
  | pending (seen seen' : Observed) : SameKind (.pending seen) (.pending seen')
  | fatal (reason reason' : String) (details details' : Json) :
      SameKind (.fatal reason details) (.fatal reason' details')
  | stray (value value' : Observed) : SameKind (.stray value) (.stray value')

namespace BackgroundJob

open RestartCheck.Action Trace RestartCheck.Json

section Readings

variable {jobId field path : String} {accepted : List JobState}

/-! ## The job listing -/

theorem findJob_of_texts
    {items : List Json}
    (htexts : ∀ item ∈ items, ∃ text, item = .string text) :
    findJob jobId items = .ok none := by
  induction items with
  | nil => rfl
  | cons item rest ih =>
      rw [List.forall_mem_cons] at htexts
      obtain ⟨⟨text, rfl⟩, hrest⟩ := htexts
      exact ih hrest

theorem alike_findJob
    {jobs jobs' : List Json}
    (hjobs : ReorderedItems jobs jobs') :
    Alike (Option.Rel Reordered) (findJob jobId jobs) (findJob jobId jobs') := by
  rcases hjobs with hitems | ⟨htexts, htexts', _⟩
  · induction hitems with
    | nil => exact alike_ok .none
    | cons hjob _ ih =>
        refine (hjob.alike_extractOr (by decide : IsPlainPath "config.id") .null).bind ?_
        intro id id' hid
        split
        · next hfound =>
            rw [if_pos (hid.same_string_iff.mp hfound)]
            exact alike_ok (.some hjob)
        · next hother =>
            rw [if_neg (mt hid.same_string_iff.mpr hother)]
            exact ih
  · rw [findJob_of_texts htexts, findJob_of_texts htexts']
    exact alike_ok .none

theorem alike_listedState
    {body body' : Json.Members}
    (hbody : Reordered (.object body) (.object body')) :
    Alike Eq (listedState jobId body) (listedState jobId body') := by
  refine (hbody.getOrNull "jobs").alike_presentElements.bind fun jobs jobs' hjobs => ?_
  refine (alike_findJob hjobs).bind fun found found' hfound => ?_
  cases hfound with
  | none => exact alike_ok rfl
  | some hjob =>
      refine (hjob.alike_extract isPlainPath_jobState).bind ?_
      exact fun state state' hstate => alike_ok (congrArg some (ofJson_of_reordered hstate))

/-! ## The task list -/

/-- What is found is accepted in both readings or in none, unless both fail. -/
theorem alike_of_readingOf_eq
    {body body' : Json.Members}
    (hsame : readingOf accepted (runningState body) = readingOf accepted (runningState body')) :
    Alike (fun running running' => isIn accepted running = isIn accepted running')
      (runningState body) (runningState body') := by
  cases hknown : runningState body with
  | error failure =>
      obtain rfl := eq_of_runningState_error hknown
      cases hother : runningState body' with
      | error failure' =>
          obtain rfl := eq_of_runningState_error hother
          exact alike_error rfl
      | ok running' =>
          rw [hknown, hother] at hsame
          cases hsame
  | ok running =>
      cases hother : runningState body' with
      | error failure' =>
          rw [hknown, hother] at hsame
          cases hsame
      | ok running' =>
          rw [hknown, hother] at hsame
          exact alike_ok (TaskReading.state.inj hsame)

/-! ## The cluster state -/

theorem alike_findRecord
    {records records' : List Json}
    (hplain : IsPlainPath path)
    (hrecords : ReorderedItems records records') :
    Alike Eq (findRecord jobId path field records) (findRecord jobId path field records') := by
  rcases hrecords with hitems | ⟨htexts, htexts', hlength⟩
  · induction hitems with
    | nil => exact alike_ok rfl
    | cons hrecord _ ih =>
        refine (hrecord.alike_member "id").bind fun id id' hid => ?_
        split
        · next hfound =>
            rw [if_pos (hid.same_string_iff.mp hfound)]
            refine (hrecord.alike_extractOr hplain .null).bind fun state state' hstate => ?_
            rw [ofJson_of_reordered hstate]
            exact alike_ok rfl
        · next hother =>
            rw [if_neg (mt hid.same_string_iff.mpr hother)]
            exact ih
  · -- A text has no members, so both readings fail at the first one.
    cases records with
    | nil =>
        obtain rfl := List.length_eq_zero_iff.mp hlength.symm
        exact alike_ok rfl
    | cons record rest =>
        obtain ⟨record', rest', rfl⟩ := List.exists_cons_of_length_eq_add_one hlength.symm
        obtain ⟨text, rfl⟩ := htexts record List.mem_cons_self
        obtain ⟨text', rfl⟩ := htexts' record' List.mem_cons_self
        exact alike_error rfl

theorem alike_recordOf
    {body body' : Json.Members}
    (hplain : IsPlainPath (statePath field))
    (hbody : Reordered (.object body) (.object body')) :
    Alike (fun found found' => found.2 = found'.2)
      (recordOf jobId field body) (recordOf jobId field body') := by
  refine (hbody.alike_extractOr
    (by decide : IsPlainPath "metadata.persistent_tasks.tasks") (.array [])).bind ?_
  intro tasks tasks' htasks
  refine htasks.alike_elements.bind fun records records' hrecords => ?_
  exact (alike_findRecord hplain hrecords).bind fun record record' hrecord => alike_ok hrecord

end Readings

/-! ## The verdict -/

/-- The end of a round behind the reading of the task list. -/
def concluded
    (jobId field : String)
    (accepted : List JobState)
    (listed : Option JobState)
    (cluster : Response)
    (known : Except Failure (Option JobState)) : Except Failure (PollOutcome JobObservation) := do
  let running ← known
  unlessRefused "cluster state" cluster do
    let (tasks, record) ← cluster.object >>= recordOf jobId field
    .ok (judge jobId accepted listed running tasks record)

section Verdict

variable {jobId field source : String} {accepted : List JobState} {listed running : Option JobState}
  {jobs jobs' nodes nodes' cluster cluster' response response' : Response}
  {record : TaskRecord}

theorem verdict_eq :
    verdict jobId field accepted jobs nodes cluster =
      unlessRefused "job api" jobs (do
        let listed ← jobs.object >>= listedState jobId
        unlessRefused "task list" nodes
          (concluded jobId field accepted listed cluster (nodes.object >>= runningState))) :=
  rfl

theorem ok_bind
    {α β : Type}
    (value : α)
    (next : α → Except Failure β) :
    ((.ok value : Except Failure α) >>= next) = next value :=
  rfl

theorem unlessRefused_of_ok
    {read : Except Failure (PollOutcome JobObservation)}
    (hok : response.ok = true) :
    unlessRefused source response read = read := by
  unfold unlessRefused
  rw [refused?_eq_none_iff.mpr hok]

/-- Behind a job listing that is read, the round is up to the task list and the cluster state. -/
theorem verdict_of_listed
    {body : Json.Members}
    (hjobs : jobs.ok = true)
    (hlisted : jobs.object >>= listedState jobId = .ok listed)
    (hnodes : nodes.ok = true)
    (hbody : nodes.object = .ok body) :
    verdict jobId field accepted jobs nodes cluster =
      concluded jobId field accepted listed cluster (runningState body) := by
  rw [verdict_eq, unlessRefused_of_ok hjobs, hlisted, ok_bind, unlessRefused_of_ok hnodes, hbody,
    ok_bind]

theorem agreesOn_eq :
    JobObservation.agreesOn ⟨listed, running, some record⟩ accepted =
      (isIn accepted listed && (isIn accepted running && accepted.contains record.state)) := by
  unfold JobObservation.agreesOn JobObservation.states isIn
  cases listed with
  | none => rfl
  | some _ =>
      cases running with
      | none => simp
      | some _ => simp

theorem sameKind_judge
    {running' : Option JobState} {tasks tasks' : Json} {found : Option TaskRecord}
    (hrunning : isIn accepted running = isIn accepted running') :
    (judge jobId accepted listed running tasks found).SameKind
      (judge jobId accepted listed running' tasks' found) := by
  cases found with
  | none => exact .fatal _ _ _ _
  | some record =>
      unfold judge
      simp only [agreesOn_eq, hrunning]
      split
      · exact .converged _ _
      · exact .pending _ _

theorem rel_refused?
    (source : String)
    (hresponse : response.Reordered response') :
    Option.Rel PollOutcome.SameKind (refused? source response) (refused? source response') := by
  unfold refused?
  rw [← hresponse.1, ← hresponse.ok]
  split
  · exact .some (.pending _ _)
  split
  · exact .none
  · exact .some (.fatal _ _ _ _)

theorem alike_unlessRefused
    {read read' : Except Failure (PollOutcome JobObservation)}
    (hresponse : response.Reordered response')
    (hread : Alike PollOutcome.SameKind read read') :
    Alike PollOutcome.SameKind (unlessRefused source response read)
      (unlessRefused source response' read') := by
  have hrefused := rel_refused? source hresponse
  unfold unlessRefused
  generalize refused? source response = refusal at hrefused
  generalize refused? source response' = refusal' at hrefused
  cases hrefused with
  | none => exact hread
  | some hkind => exact alike_ok hkind

theorem alike_concluded
    {known known' : Except Failure (Option JobState)}
    (hplain : IsPlainPath (statePath field))
    (hcluster : cluster.Reordered cluster')
    (hknown : Alike (fun running running' => isIn accepted running = isIn accepted running')
      known known') :
    Alike PollOutcome.SameKind (concluded jobId field accepted listed cluster known)
      (concluded jobId field accepted listed cluster' known') := by
  refine hknown.bind fun running running' hrunning => alike_unlessRefused hcluster ?_
  refine (hcluster.alike_object.bind fun body body' hbody => alike_recordOf hplain hbody).bind ?_
  rintro ⟨tasks, record⟩ ⟨tasks', record'⟩ hrecord
  obtain rfl : record = record' := hrecord
  exact alike_ok (sameKind_judge hrunning)

/-- The tasks of the answer agree, if it can be read. -/
def TasksAgreeIn
    (accepted : List JobState)
    (nodes : Response) : Prop :=
  ∀ body, nodes.object = .ok body → TasksAgree accepted body

theorem alike_runningState
    (hagree : TasksAgreeIn accepted nodes)
    (hnodes : nodes.Reordered nodes') :
    Alike (fun running running' => isIn accepted running = isIn accepted running')
      (nodes.object >>= runningState) (nodes'.object >>= runningState) := by
  rcases hnodes.alike_object with
    ⟨body, body', hbody, hbody', hreordered⟩ | ⟨failure, failure', hfailed, hfailed', hkind⟩
  · rw [hbody, hbody']
    exact alike_of_readingOf_eq ((hagree body hbody).readingOf_eq hreordered)
  · rw [hfailed, hfailed']
    exact alike_error hkind

theorem alike_verdict
    (hplain : IsPlainPath (statePath field))
    (hagree : TasksAgreeIn accepted nodes)
    (hjobs : jobs.Reordered jobs')
    (hnodes : nodes.Reordered nodes')
    (hcluster : cluster.Reordered cluster') :
    Alike PollOutcome.SameKind (verdict jobId field accepted jobs nodes cluster)
      (verdict jobId field accepted jobs' nodes' cluster') := by
  rw [verdict_eq, verdict_eq]
  refine alike_unlessRefused hjobs ?_
  refine (hjobs.alike_object.bind fun body body' hbody => alike_listedState hbody).bind ?_
  rintro listed _ rfl
  exact alike_unlessRefused hnodes
    (alike_concluded hplain hcluster (alike_runningState hagree hnodes))

/-! ## When the tasks decide -/

/-- When the other two places report an accepted state, the task list decides the round. -/
theorem exists_record_of_concluded
    {state : JobState} {observation : JobObservation}
    (hconcluded : concluded jobId field accepted listed cluster (.ok (some state)) =
      .ok (.converged observation)) :
    ∃ tasks record,
      isIn accepted listed = true ∧
      accepted.contains record.state = true ∧
      ∀ known, concluded jobId field accepted listed cluster known =
        known >>= fun running => .ok (judge jobId accepted listed running tasks (some record)) := by
  have hstage : unlessRefused "cluster state" cluster (do
      let (tasks, record) ← cluster.object >>= recordOf jobId field
      .ok (judge jobId accepted listed (some state) tasks record)) =
    .ok (.converged observation) := hconcluded
  unfold unlessRefused at hstage
  split at hstage
  · next outcome hrefused =>
      cases hstage
      exact absurd rfl ((refused_cases hrefused).2 observation)
  · next hnone =>
      obtain ⟨⟨tasks, found⟩, hfound, hjudge⟩ := bind_eq_ok_iff.mp hstage
      obtain ⟨⟨_, hlisted, rfl⟩, _, record, rfl, hrecord⟩ := states_of_judge (Except.ok.inj hjudge)
      refine ⟨tasks, record, by simpa [isIn] using hlisted, by simpa using hrecord, fun known => ?_⟩
      unfold concluded unlessRefused
      rw [hnone, hfound]
      rfl

theorem judge_eq
    {tasks : Json}
    (hlisted : isIn accepted listed = true)
    (hrecord : accepted.contains record.state = true) :
    judge jobId accepted listed running tasks (some record) =
      if isIn accepted running then .converged ⟨listed, running, some record⟩
      else .pending (.job ⟨listed, running, some record⟩) := by
  unfold judge
  simp only [agreesOn_eq, hlisted, hrecord, Bool.true_and, Bool.and_true]

/-- The kind of the end tells what was read from the task list. -/
theorem readingOf_eq_of_alike
    {known known' : Except Failure (Option JobState)} {tasks : Json}
    (hlisted : isIn accepted listed = true)
    (hrecord : accepted.contains record.state = true)
    (hkind : Alike PollOutcome.SameKind
      (known >>= fun running => .ok (judge jobId accepted listed running tasks (some record)))
      (known' >>= fun running => .ok (judge jobId accepted listed running tasks (some record)))) :
    readingOf accepted known = readingOf accepted known' := by
  rcases hkind with ⟨outcome, outcome', hends, hends', hsame⟩ | ⟨_, _, hfails, hfails', _⟩
  · obtain ⟨running, rfl, hjudge⟩ := bind_eq_ok_iff.mp hends
    obtain ⟨running', rfl, hjudge'⟩ := bind_eq_ok_iff.mp hends'
    cases hjudge
    cases hjudge'
    rw [judge_eq hlisted hrecord, judge_eq hlisted hrecord] at hsame
    refine congrArg TaskReading.state ?_
    cases hin : isIn accepted running with
    | true =>
        cases hin' : isIn accepted running' with
        | true => rfl
        | false =>
            rw [hin, hin'] at hsame
            cases hsame
    | false =>
        cases hin' : isIn accepted running' with
        | true =>
            rw [hin, hin'] at hsame
            cases hsame
        | false => rfl
  · cases known with
    | ok running => cases hfails
    | error failure =>
        cases known' with
        | ok running' => cases hfails'
        | error failure' => rfl

end Verdict

/-! ## The order of members -/

/-- A round against the service gets as far as the task list, and for some state that the task list
might tell it converges: so the other two places report an accepted state. -/
structure IsUpToTasks
    (ctx : ScenarioContext)
    (jobId : String)
    (accepted : List JobState)
    (serve : Request → Response)
    (listed : Option JobState)
    (body : Json.Members) : Prop where
  serving : ∃ rollup row,
    ctx.serving Capability.rollupJobs = .ok rollup ∧
    ctx.serving Capability.taskStateField = .ok row
  jobs_ok : (serve (jobRequest jobId)).ok = true
  jobs_read : (serve (jobRequest jobId)).object >>= listedState jobId = .ok listed
  tasks_ok : (serve tasksRequest).ok = true
  tasks_read : (serve tasksRequest).object = .ok body
  may_converge : ∃ state observation,
    concluded jobId (Capability.stateFieldAt ctx.config.servingVersion) accepted listed
      (serve metadataRequest) (.ok (some state)) = .ok (.converged observation)

/-- **Verdicts and the order of members.**  Against every service a round of observing a job comes
to an end.  When all tasks of the task list agree, the round ends alike against every service whose
answers differ in the order of members only: with outcomes of one kind, or with failures of one
kind.  When the round is up to the task list, it ends alike for every order of this list exactly
when all its tasks agree. -/
theorem keeps_kind_iff_tasksAgree
    (ctx : ScenarioContext)
    (jobId : String)
    (accepted : List JobState)
    (htable : ctx.harness.table = Capability.standard) :
    (∀ serve, Finishes serve (observe ctx jobId accepted)) ∧
    (∀ serve serve',
      (∀ request, (serve request).Reordered (serve' request)) →
      TasksAgreeIn accepted (serve tasksRequest) →
      ∀ before before' events events' ending ending' after after',
        (observe ctx jobId accepted).Runs before events ending after → Served serve events →
        (observe ctx jobId accepted).Runs before' events' ending' after' → Served serve' events' →
        Alike PollOutcome.SameKind ending ending') ∧
    ∀ serve listed body,
      IsUpToTasks ctx jobId accepted serve listed body →
      ∀ before events ending after,
        (observe ctx jobId accepted).Runs before events ending after → Served serve events →
        ((∀ body', Reordered (.object body) (.object body') →
            Alike PollOutcome.SameKind ending
              (concluded jobId (Capability.stateFieldAt ctx.config.servingVersion) accepted listed
                (serve metadataRequest) (runningState body'))) ↔
          TasksAgree accepted body) := by
  refine ⟨fun serve => finishes_observe serve ctx jobId accepted, ?_, ?_⟩
  · intro serve serve' hreordered hagree before before' events events' ending ending' after after'
      hrun hserved hrun' hserved'
    rw [gives_observe serve jobId accepted htable hrun hserved,
      gives_observe serve' jobId accepted htable hrun' hserved']
    refine Alike.bind_same _ fun rollup => Alike.bind_same _ fun row => ?_
    exact alike_verdict (isPlainPath_statePath _) hagree (hreordered _) (hreordered _)
      (hreordered _)
  · intro serve listed body hupTo before events ending after hrun hserved
    obtain ⟨rollup, row, hrollup, hrow⟩ := hupTo.serving
    have hending := gives_observe serve jobId accepted htable hrun hserved
    rw [hrollup, hrow, ok_bind, ok_bind, verdict_of_listed hupTo.jobs_ok hupTo.jobs_read
      hupTo.tasks_ok hupTo.tasks_read] at hending
    obtain ⟨state, observation, hconverged⟩ := hupTo.may_converge
    obtain ⟨tasks, record, hlisted, hrecord, hends⟩ := exists_record_of_concluded hconverged
    rw [tasksAgree_iff (Response.isDistinct_of_object hupTo.tasks_read), hending]
    refine forall₂_congr fun body' _ => ?_
    rw [hends, hends]
    constructor
    · exact readingOf_eq_of_alike hlisted hrecord
    · exact fun hsame => (alike_of_readingOf_eq hsame).bind fun _ _ hrunning =>
        alike_ok (sameKind_judge hrunning)

/-! ### Two tasks -/

/-- A listing of the job in state started. -/
def startedJobs : Response :=
  ⟨200, "\x7b\"jobs\": [\x7b\"config\": \x7b\"id\": \"rollup-job-test\"\x7d, " ++
    "\"status\": \x7b\"job_state\": \"started\"\x7d\x7d]\x7d"⟩

/-- A cluster state with a record of the job in state started. -/
def startedRecords : Response :=
  ⟨200, "\x7b\"metadata\": \x7b\"persistent_tasks\": \x7b\"tasks\": " ++
    "[\x7b\"id\": \"rollup-job-test\", \"task\": \x7b\"xpack/rollup/job\": " ++
    "\x7b\"status\": \x7b\"job_state\": \"started\"\x7d\x7d\x7d\x7d]\x7d\x7d\x7d"⟩

/-- A service with a node that runs two tasks, and with the job started in the other two places. -/
def withTasks (first second : String) (request : Request) : Response :=
  if request.path = tasksRequest.path then
    ⟨200, "\x7b\"nodes\": \x7b\"n\": \x7b\"tasks\": \x7b" ++ first ++ ", " ++ second ++
      "\x7d\x7d\x7d\x7d"⟩
  else if request.path = metadataRequest.path then startedRecords
  else startedJobs

def startedTask : String := "\"n:1\": \x7b\"status\": \x7b\"job_state\": \"started\"\x7d\x7d"

def stoppedTask : String := "\"n:2\": \x7b\"status\": \x7b\"job_state\": \"stopped\"\x7d\x7d"

/-- A task list with one node, as it is read. -/
def taskList (tasks : Json.Members) : Json.Members :=
  [("nodes", .object [("n", .object [("tasks", .object tasks)])])]

def stateMember (state : String) : String × Json :=
  ("status", .object [("job_state", .string state)])

/-- The two tasks, as they are read. -/
def twoTasks : Json.Members :=
  [("n:1", .object [stateMember "started"]), ("n:2", .object [stateMember "stopped"])]

theorem decode_startedTask_first :
    decode (withTasks startedTask stoppedTask tasksRequest).body =
      .ok (.object (taskList twoTasks)) := by
  cbv

theorem decode_stoppedTask_first :
    decode (withTasks stoppedTask startedTask tasksRequest).body =
      .ok (.object (taskList twoTasks.reverse)) := by
  cbv

theorem listedState_startedJobs :
    startedJobs.object >>= listedState "rollup-job-test" = .ok (some .started) := by
  have hdecode : decode startedJobs.body =
      .ok (.object [("jobs", .array [.object
        [("config", .object [("id", .string "rollup-job-test")]), stateMember "started"]])]) := by
    cbv
  rw [Response.object_of_decode hdecode]
  cbv

theorem recordOf_startedRecords :
    ∃ tasks,
      startedRecords.object >>= recordOf "rollup-job-test" "status" =
        .ok (tasks, some ⟨"rollup-job-test", "status", .started⟩) := by
  have hdecode : decode startedRecords.body =
      .ok (.object [("metadata", .object [("persistent_tasks", .object [("tasks", .array [.object
        [("id", .string "rollup-job-test"),
         ("task", .object [("xpack/rollup/job", .object [stateMember "started"])])]])])])]) := by
    cbv
  rw [Response.object_of_decode hdecode]
  exact ⟨_, rfl⟩

theorem reordered_taskList
    {tasks tasks' : Json.Members}
    (htasks : Reordered (.object tasks) (.object tasks')) :
    Reordered (.object (taskList tasks)) (.object (taskList tasks')) := by
  have hsingle : ∀ {name : String} {value value' : Json},
      Reordered value value' → Reordered (.object [(name, value)]) (.object [(name, value')]) :=
    fun hvalue => .object (by simp [OrderedMap.keys]) (.cons (.mk _ hvalue) .nil) (List.Perm.refl _)
  exact hsingle (hsingle (hsingle htasks))

theorem reordered_withTasks
    (request : Request) :
    (withTasks startedTask stoppedTask request).Reordered
      (withTasks stoppedTask startedTask request) := by
  by_cases htasks : request.path = tasksRequest.path
  · have hswap : Reordered (.object twoTasks) (.object twoTasks.reverse) :=
      .object (by decide) (forall₂_reorderedMember_refl _) (List.reverse_perm _).symm
    have hsame : ∀ first second,
        withTasks first second request = withTasks first second tasksRequest := by
      intro first second
      unfold withTasks
      rw [if_pos htasks, if_pos rfl]
    rw [hsame, hsame]
    exact ⟨rfl, Or.inr ⟨_, _, decode_startedTask_first, decode_stoppedTask_first,
      reordered_taskList hswap⟩⟩
  · unfold withTasks
    rw [if_neg htasks, if_neg htasks]
    exact ⟨rfl, Or.inl rfl⟩

theorem concluded_startedRecords
    (accepted : List JobState)
    (listed running : Option JobState) :
    ∃ tasks,
      concluded "rollup-job-test" "status" accepted listed startedRecords (.ok running) =
        .ok (judge "rollup-job-test" accepted listed running tasks
          (some ⟨"rollup-job-test", "status", .started⟩)) := by
  obtain ⟨tasks, hrecord⟩ := recordOf_startedRecords
  refine ⟨tasks, ?_⟩
  change unlessRefused "cluster state" startedRecords _ = _
  rw [unlessRefused_of_ok (by decide), hrecord]
  rfl

theorem withTasks_jobRequest
    (first second : String) :
    withTasks first second (jobRequest "rollup-job-test") = startedJobs := by
  unfold withTasks
  rw [if_neg (by decide), if_neg (by decide)]

theorem withTasks_metadataRequest
    (first second : String) :
    withTasks first second metadataRequest = startedRecords := by
  unfold withTasks
  rw [if_neg (by decide), if_pos rfl]

theorem verdict_withTasks
    {first second : String} {body : Json.Members}
    (accepted : List JobState)
    (hbody : (withTasks first second tasksRequest).object = .ok body) :
    verdict "rollup-job-test" "status" accepted
        (withTasks first second (jobRequest "rollup-job-test"))
        (withTasks first second tasksRequest) (withTasks first second metadataRequest) =
      concluded "rollup-job-test" "status" accepted (some .started) startedRecords
        (runningState body) := by
  rw [withTasks_jobRequest, withTasks_metadataRequest]
  exact verdict_of_listed (by decide) listedState_startedJobs rfl hbody

/-- The round against the service, given the task list as it is read. -/
theorem exists_runs_observe_withTasks
    {first second : String} {body : Json.Members}
    (accepted : List JobState)
    (hbody : (withTasks first second tasksRequest).object = .ok body) :
    ∃ events after,
      (observe standardContext "rollup-job-test" accepted).Runs {} events
        (concluded "rollup-job-test" "status" accepted (some .started) startedRecords
          (runningState body)) after ∧
      Served (withTasks first second) events := by
  obtain ⟨events, after, hrun, hserved⟩ := exists_runs_observe standardContext
    (withTasks first second) "rollup-job-test" accepted {} rfl rfl rfl
  have hfield : Capability.stateFieldAt standardContext.config.servingVersion = "status" := by
    decide
  rw [hfield, verdict_withTasks accepted hbody] at hrun
  exact ⟨events, after, hrun, hserved⟩

theorem object_startedTask_first :
    (withTasks startedTask stoppedTask tasksRequest).object = .ok (taskList twoTasks) :=
  Response.object_of_decode decode_startedTask_first

theorem object_stoppedTask_first :
    (withTasks stoppedTask startedTask tasksRequest).object = .ok (taskList twoTasks.reverse) :=
  Response.object_of_decode decode_stoppedTask_first

/-- Each of the two tasks shows its state. -/
theorem shows_twoTasks_iff
    {accepted : List JobState} {reading : TaskReading} :
    Shows accepted [("n", .object [("tasks", .object twoTasks)])] reading ↔
      reading = .state (accepted.contains .started) ∨
        reading = .state (accepted.contains .stopped) := by
  have hfind : ∀ state, (Json.object [stateMember state]).find "status.job_state" =
      .ok (some (.string state)) := fun _ => rfl
  constructor
  · rintro ⟨name, node, hmem, hshows⟩
    cases List.mem_singleton.mp hmem
    cases hshows with
    | broken hbroken => cases (isBrokenNode_object_iff.mp hbroken).2
    | task htasks hmem hstate =>
        cases htasks
        rcases List.mem_cons.mp hmem with hfirst | hsecond
        · cases hfirst
          cases (hfind "started").symm.trans hstate
          exact Or.inl rfl
        · cases List.mem_singleton.mp hsecond
          cases (hfind "stopped").symm.trans hstate
          exact Or.inr rfl
  · rintro (rfl | rfl)
    · exact ⟨"n", _, List.mem_cons_self, .task rfl List.mem_cons_self (hfind "started")⟩
    · exact ⟨"n", _, List.mem_cons_self,
        .task rfl (List.mem_cons_of_mem _ List.mem_cons_self) (hfind "stopped")⟩

theorem tasksAgree_twoTasks_iff
    {accepted : List JobState} :
    TasksAgree accepted (taskList twoTasks) ↔
      accepted.contains .started = accepted.contains .stopped := by
  constructor
  · intro hagree
    exact TaskReading.state.inj
      (hagree _ _ _ rfl (shows_twoTasks_iff.mpr (Or.inl rfl)) (shows_twoTasks_iff.mpr (Or.inr rfl)))
  · intro hsame nodes reading reading' hnodes hshows hshows'
    cases hnodes
    rcases shows_twoTasks_iff.mp hshows with rfl | rfl
    · rcases shows_twoTasks_iff.mp hshows' with rfl | rfl
      · rfl
      · exact congrArg TaskReading.state hsame
    · rcases shows_twoTasks_iff.mp hshows' with rfl | rfl
      · exact congrArg TaskReading.state hsame.symm
      · rfl

theorem isUpToTasks_withTasks :
    IsUpToTasks standardContext "rollup-job-test" [.started] (withTasks startedTask stoppedTask)
      (some .started) (taskList twoTasks) where
  serving := ⟨_, _, rfl, rfl⟩
  jobs_ok := by
    rw [withTasks_jobRequest]
    decide
  jobs_read := by
    rw [withTasks_jobRequest]
    exact listedState_startedJobs
  tasks_ok := rfl
  tasks_read := object_startedTask_first
  may_converge := by
    obtain ⟨tasks, hends⟩ := concluded_startedRecords [.started] (some .started) (some .started)
    rw [withTasks_metadataRequest]
    exact ⟨_, _, hends⟩

/-- When both states are accepted the order of the tasks makes no difference; when only one of them
is, there is an order of the task list that changes the verdict. -/
theorem keeps_kind_in_withTasks :
    (∃ events events' ending ending' after after',
      (observe standardContext "rollup-job-test" [.started, .stopped]).Runs {} events ending after ∧
      Served (withTasks startedTask stoppedTask) events ∧
      (observe standardContext "rollup-job-test" [.started, .stopped]).Runs {} events' ending'
        after' ∧
      Served (withTasks stoppedTask startedTask) events' ∧
      Alike PollOutcome.SameKind ending ending') ∧
    ∃ events ending after body',
      (observe standardContext "rollup-job-test" [.started]).Runs {} events ending after ∧
      Served (withTasks startedTask stoppedTask) events ∧
      Reordered (.object (taskList twoTasks)) (.object body') ∧
      ¬Alike PollOutcome.SameKind ending
        (concluded "rollup-job-test"
          (Capability.stateFieldAt standardContext.config.servingVersion) [.started]
          (some .started) (withTasks startedTask stoppedTask metadataRequest)
          (runningState body')) := by
  constructor
  · obtain ⟨events, after, hrun, hserved⟩ :=
      exists_runs_observe_withTasks [.started, .stopped] object_startedTask_first
    obtain ⟨events', after', hrun', hserved'⟩ :=
      exists_runs_observe_withTasks [.started, .stopped] object_stoppedTask_first
    have hagree : TasksAgreeIn [.started, .stopped]
        (withTasks startedTask stoppedTask tasksRequest) := by
      intro body hbody
      cases object_startedTask_first.symm.trans hbody
      exact tasksAgree_twoTasks_iff.mpr rfl
    exact ⟨_, _, _, _, _, _, hrun, hserved, hrun', hserved',
      (keeps_kind_iff_tasksAgree standardContext "rollup-job-test" [.started, .stopped] rfl).2.1
        _ _ reordered_withTasks hagree _ _ _ _ _ _ _ _ hrun hserved hrun' hserved'⟩
  · obtain ⟨events, after, hrun, hserved⟩ :=
      exists_runs_observe_withTasks [.started] object_startedTask_first
    have hexact := (keeps_kind_iff_tasksAgree standardContext "rollup-job-test" [.started]
      rfl).2.2 _ _ _ isUpToTasks_withTasks _ _ _ _ hrun hserved
    have hdisagree : ¬TasksAgree [.started] (taskList twoTasks) := by
      rw [tasksAgree_twoTasks_iff]
      decide
    obtain ⟨body', hother⟩ := not_forall.mp (mt hexact.mp hdisagree)
    obtain ⟨hreordered, hkinds⟩ := Classical.not_imp.mp hother
    exact ⟨_, _, _, body', hrun, hserved, hreordered, hkinds⟩

/-- Two orders of two tasks: the round converges for one of them and not for the other. -/
theorem kinds_differ_in_withTasks :
    (∀ request, (withTasks startedTask stoppedTask request).Reordered
      (withTasks stoppedTask startedTask request)) ∧
    ∃ events events' observation seen after after',
      (observe standardContext "rollup-job-test" [.started]).Runs {} events
        (.ok (.converged observation)) after ∧
      Served (withTasks startedTask stoppedTask) events ∧
      (observe standardContext "rollup-job-test" [.started]).Runs {} events'
        (.ok (.pending seen)) after' ∧
      Served (withTasks stoppedTask startedTask) events' ∧
      ¬PollOutcome.SameKind (.converged observation) (.pending seen) := by
  obtain ⟨events, after, hrun, hserved⟩ :=
    exists_runs_observe_withTasks [.started] object_startedTask_first
  obtain ⟨events', after', hrun', hserved'⟩ :=
    exists_runs_observe_withTasks [.started] object_stoppedTask_first
  have hstarted : runningState (taskList twoTasks) = .ok (some .started) := rfl
  have hstopped : runningState (taskList twoTasks.reverse) = .ok (some .stopped) := rfl
  obtain ⟨tasks, hends⟩ := concluded_startedRecords [.started] (some .started) (some .started)
  obtain ⟨tasks', hends'⟩ := concluded_startedRecords [.started] (some .started) (some .stopped)
  rw [hstarted, hends] at hrun
  rw [hstopped, hends'] at hrun'
  refine ⟨reordered_withTasks, events, events', _, _, after, after', hrun, hserved, hrun',
    hserved', ?_⟩
  rintro ⟨⟩

end BackgroundJob
end RestartCheck
