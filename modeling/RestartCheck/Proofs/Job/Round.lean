import RestartCheck.Scenario.BackgroundJob
import RestartCheck.Proofs.Capability.Gates
import RestartCheck.Proofs.Poll.Outage
import RestartCheck.Proofs.Scenario.Answers

/-!
# One round of observing a background job

A round asks the job listing, the list of running tasks and the cluster state, in this order.  It
converges only when each of the three answers by itself reports the job in an accepted state.  A
request that fails for now ends the round and leaves the poll waiting.

**Results.**
* `ofJson_mem_iff`: which words are read as an accepted state.
* `listsJob_of_listedState`, `runsTask_of_runningState`, `recordsJob_of_findRecord`: what a state
  that was read says about the answer.
* `agrees_of_runs_observe`: the answers of a round that converges.
* `retries_observe`: a request that fails for now ends the round at once.
-/

namespace RestartCheck
namespace BackgroundJob

open RestartCheck.Action Trace

/-! ## What the answers say -/

/-- The word names an accepted state, in whatever case. -/
def NamesAccepted
    (accepted : List JobState)
    (word : String) : Prop :=
  ∃ state ∈ accepted, Text.lower word = state.text

/-- A state is accepted when it is the word for an accepted one.  What is missing or no such word is
unknown, and is accepted only where the unknown state is. -/
theorem ofJson_mem_iff
    {accepted : List JobState} {found : Option Json} :
    JobState.ofJson (found.getD .null) ∈ accepted ↔
      (∃ word, found = some (.string word) ∧ NamesAccepted accepted word)
      ∨
      (JobState.unknown ∈ accepted ∧
        ∀ (word : String) (state : JobState),
          found = some (.string word) → Text.lower word = state.text → state = .unknown) := by
  have hfound : ∀ word : String, found.getD .null = .string word ↔ found = some (.string word) := by
    intro word
    cases found <;> simp
  by_cases hknown : JobState.ofJson (found.getD .null) = .unknown
  · have hwords := JobState.ofJson_eq_unknown_iff.mp hknown
    simp only [hfound] at hwords
    rw [hknown]
    constructor
    · exact fun hunknown => Or.inr ⟨hunknown, hwords⟩
    · rintro (⟨word, hword, state, haccepted, hnames⟩ | ⟨hunknown, _⟩)
      · rwa [hwords word state hword hnames] at haccepted
      · exact hunknown
  · obtain ⟨word, hword, hnames⟩ := (JobState.ofJson_eq_iff hknown).mp rfl
    rw [hfound] at hword
    constructor
    · exact fun haccepted => Or.inl ⟨word, hword, _, haccepted, hnames⟩
    · rintro (⟨other, hother, state, haccepted, hstate⟩ | ⟨_, hwords⟩)
      · cases hword.symm.trans hother
        have hsame : state = JobState.ofJson (found.getD .null) := by
          refine (Option.some.inj ?_).symm
          rw [← JobState.ofText?_eq_some_iff.mpr hnames, JobState.ofText?_eq_some_iff.mpr hstate]
        rwa [← hsame]
      · exact absurd (hwords word _ hword hnames) hknown

/-- The answer lists a job with the identifier and an accepted state. -/
def ListsJob
    (jobId : String)
    (accepted : List JobState)
    (body : Json.Members) : Prop :=
  ∃ jobs job state,
    OrderedMap.lookup body "jobs" = some (.array jobs) ∧
    job ∈ jobs ∧
    job.find "config.id" = .ok (some (.string jobId)) ∧
    job.find "status.job_state" = .ok (some state) ∧
    JobState.ofJson state ∈ accepted

/-- The task is the first one over the nodes: the nodes in front of its own have none. -/
def FirstTask
    (nodes : List Json)
    (task : Json) : Prop :=
  ∃ front node name others back,
    nodes = front ++ .object node :: back ∧
    (∀ other ∈ front, ∃ members,
      other = .object members ∧ (Json.Members.getOrNull members "tasks").truthy = false) ∧
    OrderedMap.lookup node "tasks" = some (.object ((name, task) :: others))

/-- The first task of the answer has an accepted state.  A state that is missing is unknown. -/
def RunsTask
    (accepted : List JobState)
    (body : Json.Members) : Prop :=
  ∃ nodes task state,
    OrderedMap.lookup body "nodes" = some (.object nodes) ∧
    FirstTask (nodes.map Prod.snd) task ∧
    task.find "status.job_state" = .ok state ∧
    JobState.ofJson (state.getD .null) ∈ accepted

/-- The record is the first one with the identifier. -/
def FirstRecord
    (jobId : String)
    (records : List Json)
    (record : Json) : Prop :=
  ∃ front members back,
    records = front ++ record :: back ∧
    (∀ other ∈ front, ∃ fields,
      other = .object fields ∧ OrderedMap.lookup fields "id" ≠ some (.string jobId)) ∧
    record = .object members ∧
    OrderedMap.lookup members "id" = some (.string jobId)

/-- The path to the state of a job in its record. -/
def statePath (field : String) : String :=
  "task." ++ "xpack/rollup/job" ++ "." ++ field ++ ".job_state"

/-- The first record of the job has an accepted state under the field.  A state that is missing is
unknown. -/
def RecordsJob
    (jobId field : String)
    (accepted : List JobState)
    (body : Json.Members) : Prop :=
  ∃ records record state,
    (Json.object body).find "metadata.persistent_tasks.tasks" = .ok (some (.array records)) ∧
    FirstRecord jobId records record ∧
    record.find (statePath field) = .ok state ∧
    JobState.ofJson (state.getD .null) ∈ accepted

/-! ## Readings -/

section Readings

variable {jobId : String} {accepted : List JobState} {state : JobState}

theorem mem_of_findJob
    {jobs : List Json} {job : Json}
    (hfind : findJob jobId jobs = .ok (some job)) :
    job ∈ jobs ∧ job.find "config.id" = .ok (some (.string jobId)) := by
  induction jobs with
  | nil => cases hfind
  | cons first rest ih =>
      obtain ⟨id, hid, hrest⟩ := Json.bind_eq_ok_iff.mp hfind
      split at hrest
      · next hsame =>
          cases hrest
          obtain rfl := Json.same_string_iff.mp hsame
          exact ⟨List.mem_cons_self, Json.find_of_extractOr hid (by simp)⟩
      · obtain ⟨hmem, hfound⟩ := ih hrest
        exact ⟨List.mem_cons_of_mem _ hmem, hfound⟩

theorem listsJob_of_listedState
    {body : Json.Members}
    (hlisted : listedState jobId body = .ok (some state))
    (haccepted : state ∈ accepted) :
    ListsJob jobId accepted body := by
  obtain ⟨jobs, hjobs, hlisted⟩ := Json.bind_eq_ok_iff.mp hlisted
  obtain ⟨job?, hjob, hstate⟩ := Json.bind_eq_ok_iff.mp hlisted
  cases job? with
  | none => cases hstate
  | some job =>
      obtain ⟨value, hvalue, hparsed⟩ := Json.bind_eq_ok_iff.mp hstate
      cases hparsed
      obtain ⟨hmem, hid⟩ := mem_of_findJob hjob
      have harray : body.getOrNull "jobs" = .array jobs := by
        refine Json.eq_array_of_presentElements hjobs hmem ?_
        rintro text rfl
        cases hid
      exact ⟨jobs, job, value, (Json.Members.getOrNull_eq_iff (by simp)).mp harray, hmem, hid,
        Json.extract_eq_ok_iff.mp hvalue, haccepted⟩

theorem firstTask_of_firstTaskState
    {nodes : List Json}
    (hstate : firstTaskState nodes = .ok (some state)) :
    ∃ task found,
      FirstTask nodes task ∧
      task.find "status.job_state" = .ok found ∧
      JobState.ofJson (found.getD .null) = state := by
  induction nodes with
  | nil => cases hstate
  | cons node rest ih =>
      obtain ⟨tasks, htasks, hstate⟩ := Json.bind_eq_ok_iff.mp hstate
      obtain ⟨values, hvalues, hstate⟩ := Json.bind_eq_ok_iff.mp hstate
      obtain ⟨members, rfl, hmember⟩ := Json.memberOr_eq_ok_iff.mp htasks
      cases values with
      | nil =>
          obtain ⟨task, found, ⟨front, last, name, others, back, rfl, hfront, hlast⟩, hfound⟩ :=
            ih hstate
          refine ⟨task, found, ⟨.object members :: front, last, name, others, back, rfl, ?_, hlast⟩,
            hfound⟩
          rw [List.forall_mem_cons]
          refine ⟨⟨members, rfl, ?_⟩, hfront⟩
          unfold Json.Members.getOrNull
          rw [hmember]
          exact Json.truthy_eq_false_of_presentValues hvalues
      | cons task others =>
          obtain ⟨value, hvalue, hparsed⟩ := Json.bind_eq_ok_iff.mp hstate
          cases hparsed
          obtain ⟨found, hfound, rfl⟩ := Json.extractOr_eq_ok_iff.mp hvalue
          obtain ⟨entries, rfl, hentries⟩ := Json.eq_object_of_presentValues hvalues
          obtain ⟨⟨name, first⟩, more, rfl⟩ : ∃ entry more, entries = entry :: more := by
            cases entries with
            | nil => cases hentries
            | cons entry more => exact ⟨entry, more, rfl⟩
          obtain ⟨rfl, _⟩ := List.cons.inj hentries
          refine ⟨first, found, ⟨[], members, name, more, rest, rfl, by simp, ?_⟩, hfound, rfl⟩
          exact (Json.Members.getOrNull_eq_iff (by simp)).mp hmember

theorem runsTask_of_runningState
    {body : Json.Members}
    (hrunning : runningState body = .ok (some state))
    (haccepted : state ∈ accepted) :
    RunsTask accepted body := by
  obtain ⟨values, hvalues, hstate⟩ := Json.bind_eq_ok_iff.mp hrunning
  obtain ⟨task, found, hfirst, hfound, rfl⟩ := firstTask_of_firstTaskState hstate
  obtain ⟨first, rest, rfl⟩ : ∃ first rest, values = first :: rest := by
    obtain ⟨front, node, _, _, back, rfl, _⟩ := hfirst
    cases front with
    | nil => exact ⟨_, back, rfl⟩
    | cons first others => exact ⟨first, _, rfl⟩
  obtain ⟨nodes, hnodes, hall⟩ := Json.eq_object_of_presentValues hvalues
  rw [← hall] at hfirst
  exact ⟨nodes, task, found, (Json.Members.getOrNull_eq_iff (by simp)).mp hnodes, hfirst, hfound,
    haccepted⟩

theorem firstRecord_of_findRecord
    {path field : String} {records : List Json} {found : TaskRecord}
    (hfind : findRecord jobId path field records = .ok (some found)) :
    ∃ record value,
      FirstRecord jobId records record ∧
      record.find path = .ok value ∧
      JobState.ofJson (value.getD .null) = found.state := by
  induction records with
  | nil => cases hfind
  | cons record rest ih =>
      obtain ⟨id, hid, hrest⟩ := Json.bind_eq_ok_iff.mp hfind
      obtain ⟨members, rfl, hmember⟩ := Json.memberOr_eq_ok_iff.mp hid
      split at hrest
      · next hsame =>
          obtain rfl := Json.same_string_iff.mp hsame
          obtain ⟨value, hvalue, hparsed⟩ := Json.bind_eq_ok_iff.mp hrest
          cases hparsed
          obtain ⟨inner, hinner, rfl⟩ := Json.extractOr_eq_ok_iff.mp hvalue
          refine ⟨.object members, inner, ⟨[], members, rest, rfl, by simp, rfl, ?_⟩, hinner, rfl⟩
          exact (Json.Members.getOrNull_eq_iff (by simp)).mp hmember
      · next hother =>
          obtain ⟨last, value, ⟨front, fields, back, rfl, hfront, hlast⟩, hfound⟩ := ih hrest
          refine ⟨last, value, ⟨.object members :: front, fields, back, rfl, ?_, hlast⟩, hfound⟩
          rw [List.forall_mem_cons]
          refine ⟨⟨members, rfl, fun hid => hother ?_⟩, hfront⟩
          rw [hid] at hmember
          rw [← hmember]
          exact Json.same_string_iff.mpr rfl

theorem recordsJob_of_findRecord
    {field : String} {body : Json.Members} {tasks : Json} {records : List Json}
    {found : TaskRecord}
    (htasks :
      (Json.object body).extractOr "metadata.persistent_tasks.tasks" (.array []) = .ok tasks)
    (hrecords : tasks.elements = .ok records)
    (hfind : findRecord jobId (statePath field) field records = .ok (some found))
    (haccepted : found.state ∈ accepted) :
    RecordsJob jobId field accepted body := by
  obtain ⟨record, value, hfirst, hvalue, hstate⟩ := firstRecord_of_findRecord hfind
  have hmem : record ∈ records ∧ ∀ text, record ≠ .string text := by
    obtain ⟨front, members, back, rfl, _, rfl, _⟩ := hfirst
    exact ⟨by simp, by simp⟩
  obtain rfl := Json.eq_array_of_elements hrecords hmem.1 hmem.2
  have hpresent : Json.array records ≠ .array [] := by
    intro hempty
    cases hempty
    cases hmem.1
  exact ⟨records, record, value, Json.find_of_extractOr htasks hpresent, hfirst, hvalue,
    hstate ▸ haccepted⟩

end Readings

/-! ## The round -/

def jobRequest (jobId : String) : Request :=
  { method := "GET", path := "/_xpack/rollup/job" ++ "/" ++ jobId }

def tasksRequest : Request :=
  { method := "GET", path := "/_tasks"
    params := some [("detailed", .string "true"), ("actions", .string "xpack/rollup/*")] }

def metadataRequest : Request :=
  { method := "GET", path := "/_cluster/state/metadata" }

/-- The answer to a request tells that the service is out of reach or unavailable for now. -/
def IsFleeting (event : Event) : Prop :=
  ∃ request answer,
    event = ⟨.call request, answer⟩ ∧
    ((∃ response, answer = .ok response ∧ response.status = 503) ∨
      ∃ cause, answer = .error (.unreachable cause))

section Round

variable {ctx : ScenarioContext} {jobId source : String} {accepted : List JobState}
  {before after : Session} {events : List Event} {response : Response}

theorem refused?_eq_none_iff :
    refused? source response = none ↔ response.ok = true := by
  unfold refused?
  by_cases hbusy : response.status = 503
  · simp [hbusy]
  · cases hok : response.ok <;> simp [hbusy]

/-- A refused answer leaves the poll waiting when the service is unavailable for now, and never
converges. -/
theorem refused_cases
    {outcome : PollOutcome JobObservation}
    (hrefused : refused? source response = some outcome) :
    (response.status = 503 → ∃ text, outcome = .pending (.json (.string text))) ∧
    ∀ observation, outcome ≠ .converged observation := by
  unfold refused? at hrefused
  split at hrefused
  · cases hrefused
    exact ⟨fun _ => ⟨_, rfl⟩, by simp⟩
  · next hbusy =>
      split at hrefused
      · cases hrefused
      · cases hrefused
        exact ⟨fun hstatus => absurd hstatus hbusy, by simp⟩

/-- A request whose answer is refused ends the round; otherwise the round goes on. -/
theorem runs_stage_iff
    {request : Request} {next : Response → Action (PollOutcome JobObservation)}
    {outcome : Except Failure (PollOutcome JobObservation)} :
    Action.Runs (do
        let response ← call request
        match refused? source response with
        | some outcome => return outcome
        | none => next response) before events outcome after ↔
      (∃ response rest,
        events = ⟨.call request, .ok response⟩ :: rest ∧
        response.ok = true ∧
        (next response).Runs before rest outcome after)
      ∨
      (∃ response refusal,
        events = [⟨.call request, .ok response⟩] ∧
        refused? source response = some refusal ∧
        outcome = .ok refusal ∧ after = before)
      ∨
      (∃ failure,
        events = [⟨.call request, .error failure⟩] ∧
          outcome = .error failure ∧ after = before) := by
  rw [runs_call_bind_iff, ← or_assoc]
  refine or_congr_left ⟨?_, ?_⟩
  · rintro ⟨response, rest, rfl, hrest⟩
    cases hrefused : refused? source response with
    | none =>
        rw [hrefused] at hrest
        exact Or.inl ⟨response, rest, rfl, refused?_eq_none_iff.mp hrefused, hrest⟩
    | some refusal =>
        rw [hrefused] at hrest
        obtain ⟨rfl, rfl, rfl⟩ := runs_pure_iff.mp hrest
        exact Or.inr ⟨response, refusal, rfl, hrefused, rfl, rfl⟩
  · rintro (⟨response, rest, rfl, hok, hrest⟩ | ⟨response, refusal, rfl, hrefused, rfl, rfl⟩)
    · refine ⟨response, rest, rfl, ?_⟩
      rw [refused?_eq_none_iff.mpr hok]
      exact hrest
    · refine ⟨response, [], rfl, ?_⟩
      rw [hrefused]
      exact runs_pure_iff.mpr ⟨rfl, rfl, rfl⟩

/-- A round that converges gets past every request. -/
theorem exists_answer_of_runs_stage
    {request : Request} {next : Response → Action (PollOutcome JobObservation)}
    {observation : JobObservation}
    (hrun : Action.Runs (do
        let response ← call request
        match refused? source response with
        | some outcome => return outcome
        | none => next response) before events (.ok (.converged observation)) after) :
    ∃ response rest,
      events = ⟨.call request, .ok response⟩ :: rest ∧
      response.ok = true ∧
      (next response).Runs before rest (.ok (.converged observation)) after := by
  rcases runs_stage_iff.mp hrun with
    hanswered | ⟨response, refusal, _, hrefused, houtcome, _⟩ | ⟨failure, _, houtcome, _⟩
  · exact hanswered
  · cases houtcome
    exact absurd rfl ((refused_cases hrefused).2 observation)
  · cases houtcome

/-- What a judgement that converges has found. -/
theorem states_of_judge
    {listed running : Option JobState} {tasks : Json} {record? : Option TaskRecord}
    {observation : JobObservation}
    (hjudge : judge jobId accepted listed running tasks record? = .converged observation) :
    (∃ state ∈ accepted, listed = some state) ∧
    (∃ state ∈ accepted, running = some state) ∧
    ∃ record, record? = some record ∧ record.state ∈ accepted := by
  unfold judge at hjudge
  cases record? with
  | none => cases hjudge
  | some record =>
      simp only at hjudge
      split at hjudge
      · next hagrees => exact JobObservation.agreesOn_iff.mp hagrees
      · cases hjudge

/-- The answers of a round that converges. -/
theorem agrees_of_runs_observe
    {observation : JobObservation}
    (htable : ctx.harness.table = Capability.standard)
    (hrun : (observe ctx jobId accepted).Runs before events (.ok (.converged observation)) after) :
    ∃ jobs nodes cluster,
      exchanges events = [jobs, nodes, cluster] ∧
      Exchange.Accepted (jobRequest jobId) (ListsJob jobId accepted) jobs ∧
      Exchange.Accepted tasksRequest (RunsTask accepted) nodes ∧
      Exchange.Accepted metadataRequest
        (RecordsJob jobId (Capability.stateFieldAt ctx.config.servingVersion)
          accepted) cluster := by
  unfold observe ScenarioContext.serving at hrun
  rw [htable] at hrun
  obtain ⟨rollup, hrollup, hrun⟩ := runs_liftM_bind_ok_iff.mp hrun
  obtain ⟨row, hrow, hrun⟩ := runs_liftM_bind_ok_iff.mp hrun
  cases Capability.rollupJobs_of_resolve hrollup
  cases Capability.taskStateField_of_resolve hrow
  obtain ⟨field, hfield, hrun⟩ := runs_liftM_bind_ok_iff.mp hrun
  obtain ⟨jobPath, hjobPath, hrun⟩ := runs_liftM_bind_ok_iff.mp hrun
  cases hfield
  cases hjobPath
  obtain ⟨jobs, rest, rfl, hjobsOk, hrun⟩ := exists_answer_of_runs_stage hrun
  obtain ⟨jobsBody, hjobsBody, hrun⟩ := runs_liftM_bind_ok_iff.mp hrun
  obtain ⟨listed, hlisted, hrun⟩ := runs_liftM_bind_ok_iff.mp hrun
  obtain ⟨actions, hactions, hrun⟩ := runs_liftM_bind_ok_iff.mp hrun
  cases hactions
  obtain ⟨nodes, rest, rfl, hnodesOk, hrun⟩ := exists_answer_of_runs_stage hrun
  obtain ⟨nodesBody, hnodesBody, hrun⟩ := runs_liftM_bind_ok_iff.mp hrun
  obtain ⟨running, hrunning, hrun⟩ := runs_liftM_bind_ok_iff.mp hrun
  obtain ⟨cluster, rest, rfl, hclusterOk, hrun⟩ := exists_answer_of_runs_stage hrun
  obtain ⟨body, hbody, hrun⟩ := runs_liftM_bind_ok_iff.mp hrun
  obtain ⟨tasks, htasks, hrun⟩ := runs_liftM_bind_ok_iff.mp hrun
  obtain ⟨taskName, htaskName, hrun⟩ := runs_liftM_bind_ok_iff.mp hrun
  cases htaskName
  obtain ⟨records, hrecords, hrun⟩ := runs_liftM_bind_ok_iff.mp hrun
  obtain ⟨record, hrecord, hrun⟩ := runs_liftM_bind_ok_iff.mp hrun
  obtain ⟨rfl, hjudged, _⟩ := runs_pure_iff.mp hrun
  obtain ⟨⟨listedState, hlistedIn, rfl⟩, ⟨runningState, hrunningIn, rfl⟩, found, rfl, hfoundIn⟩ :=
    states_of_judge (Except.ok.inj hjudged).symm
  refine ⟨_, _, _, rfl, ?_, ?_, ?_⟩
  · exact accepted_ok_iff.mpr ⟨hjobsOk, jobsBody, hjobsBody,
      listsJob_of_listedState hlisted hlistedIn⟩
  · exact accepted_ok_iff.mpr ⟨hnodesOk, nodesBody, hnodesBody,
      runsTask_of_runningState hrunning hrunningIn⟩
  · exact accepted_ok_iff.mpr ⟨hclusterOk, body, hbody,
      recordsJob_of_findRecord htasks hrecords hrecord hfoundIn⟩

/-! ## Requests that fail for now -/

theorem retries_of_silent
    {action : Action (PollOutcome JobObservation)}
    (hsilent : ∀ ⦃before after events outcome⦄,
      action.Runs before events outcome after → events = []) :
    Poll.Retries IsFleeting action := by
  intro before after events outcome hrun
  rw [hsilent hrun]
  trivial

theorem retries_liftM_bind
    {α : Type} {known : Except Failure α} {next : α → Action (PollOutcome JobObservation)}
    (hnext : ∀ value, Poll.Retries IsFleeting (next value)) :
    Poll.Retries IsFleeting (liftM known >>= next) := by
  intro before after events outcome hrun
  rcases runs_liftM_bind_iff.mp hrun with ⟨value, _, hrest⟩ | ⟨failure, _, rfl, _⟩
  · exact hnext value hrest
  · trivial

/-- Only the answers that end the round at once tell to try again. -/
theorem retries_stage
    {request : Request} {next : Response → Action (PollOutcome JobObservation)}
    (hnext : ∀ response, Poll.Retries IsFleeting (next response)) :
    Poll.Retries IsFleeting (do
      let response ← call request
      match refused? source response with
      | some outcome => return outcome
      | none => next response) := by
  intro before after events outcome hrun
  rcases runs_stage_iff.mp hrun with
    ⟨response, rest, rfl, hok, hrest⟩ | ⟨response, refusal, rfl, hrefused, rfl, _⟩ |
      ⟨failure, rfl, rfl, _⟩
  · refine ⟨fun hfleeting => ?_, hnext response hrest⟩
    obtain ⟨_, _, heq, ⟨_, rfl, hbusy⟩ | ⟨_, rfl⟩⟩ := hfleeting
    · cases heq
      simp [hbusy] at hok
    · cases heq
  · refine ⟨fun hfleeting => ⟨rfl, ?_⟩, trivial⟩
    obtain ⟨_, _, heq, ⟨_, rfl, hbusy⟩ | ⟨_, rfl⟩⟩ := hfleeting
    · cases heq
      obtain ⟨text, rfl⟩ := (refused_cases hrefused).1 hbusy
      exact Poll.waits_text _ _
    · cases heq
  · refine ⟨fun hfleeting => ⟨rfl, ?_⟩, trivial⟩
    obtain ⟨_, _, heq, ⟨_, rfl, _⟩ | ⟨_, rfl⟩⟩ := hfleeting
    · cases heq
    · cases heq
      exact Poll.waits_unreachable _ _

/-- A request that fails for now ends the round at once, and leaves the poll waiting. -/
theorem retries_observe
    (ctx : ScenarioContext)
    (jobId : String)
    (accepted : List JobState) :
    Poll.Retries IsFleeting (observe ctx jobId accepted) := by
  refine retries_liftM_bind fun rollup => retries_liftM_bind fun row =>
    retries_liftM_bind fun field => retries_liftM_bind fun jobPath => ?_
  refine retries_stage fun jobs => ?_
  refine retries_liftM_bind fun jobsBody => retries_liftM_bind fun listed =>
    retries_liftM_bind fun actions => ?_
  refine retries_stage fun nodes => ?_
  refine retries_liftM_bind fun nodesBody => retries_liftM_bind fun running => ?_
  refine retries_stage fun cluster => ?_
  refine retries_liftM_bind fun body => retries_liftM_bind fun tasks =>
    retries_liftM_bind fun taskName => retries_liftM_bind fun records =>
      retries_liftM_bind fun record => ?_
  exact retries_of_silent fun _ _ _ _ hrun => (runs_pure_iff.mp hrun).1

end Round

end BackgroundJob
end RestartCheck
