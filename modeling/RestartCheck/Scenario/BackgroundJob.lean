import RestartCheck.Health
import RestartCheck.Json.Path
import RestartCheck.Json.Shape
import RestartCheck.Poll.Convergence
import RestartCheck.Scenario.Basic
import RestartCheck.Text.Order

/-!
# Persistence of a background job

A job started before the upgrade must come back running after it.  Its state is read from the job
listing, the list of running tasks and the persistent task records, which may lag behind each other.
The job only counts as running when all three report an accepted state in one round.
-/

namespace RestartCheck.BackgroundJob

def name : String := "background_job"

def sourceIndex : String := "rollup-docs"

def resultIndex : String := "results-rollup"

/-- A number with zeros in front, up to a width that includes the sign. -/
def zeroPadded (width : Nat) (n : Int) : String :=
  let digits := toString n.natAbs
  let sign := if n < 0 then "-" else ""
  sign ++ String.ofList (List.replicate (width - sign.length - digits.length) '0') ++ digits

/-- The lines that store one document. -/
def bulkLines (index : String) (year : Int) (number : Nat) : String :=
  "\x7b\"index\":\x7b\"_index\":\"" ++ index ++ "\",\"_type\":\"doc\"\x7d\x7d\n"
    ++ "\x7b\"timestamp\":\"" ++ zeroPadded 4 year ++ "-01-01T00:" ++ zeroPadded 2 number
    ++ ":00Z\",\"value\":" ++ toString number ++ "\x7d\n"

/-- The request body that stores a number of documents. -/
def bulkBody (index : String) (year : Int) (count : Nat) : String :=
  String.join ((List.range count).map (bulkLines index year))

def jobBody : Json :=
  .object
    [("index_pattern", .string "rollup-*"),
     ("rollup_index", .string resultIndex),
     ("cron", .string "*/30 * * * * ?"),
     ("page_size", .int 100),
     ("groups", .object
       [("date_histogram",
         .object [("field", .string "timestamp"), ("interval", .string "5m")])]),
     ("metrics", .array [.object
       [("field", .string "value"),
        ("metrics", .array [.string "min", .string "max", .string "sum"])]])]

/-- The first of several jobs with the given identifier. -/
def findJob (jobId : String) : List Json → Except Failure (Option Json)
  | [] => .ok none
  | job :: rest => do
    let id ← job.extractOr "config.id" .null
    if id.same (.string jobId) then .ok (some job) else findJob jobId rest

/-- The state in the job listing, if the job is listed. -/
def listedState (jobId : String) (body : Json.Members) : Except Failure (Option JobState) := do
  let jobs ← (body.getOrNull "jobs").presentElements
  match ← findJob jobId jobs with
  | none => .ok none
  | some job => do
    let state ← job.extract "status.job_state"
    .ok (some (JobState.ofJson state))

/-- The state of the first task found over several nodes. -/
def firstTaskState : List Json → Except Failure (Option JobState)
  | [] => .ok none
  | node :: rest => do
    let tasks ← (← node.member "tasks").presentValues
    match tasks with
    | [] => firstTaskState rest
    | task :: _ => do
      let state ← task.extractOr "status.job_state" .null
      .ok (some (JobState.ofJson state))

/-- The state in the list of running tasks, if there is a task. -/
def runningState (body : Json.Members) : Except Failure (Option JobState) := do
  let nodes ← (body.getOrNull "nodes").presentValues
  firstTaskState nodes

/-- The first of several task records with the given identifier. -/
def findRecord (jobId statePath stateField : String) :
    List Json → Except Failure (Option TaskRecord)
  | [] => .ok none
  | task :: rest => do
    let id ← task.member "id"
    if id.same (.string jobId) then do
      let state ← task.extractOr statePath .null
      .ok (some ⟨jobId, stateField, JobState.ofJson state⟩)
    else findRecord jobId statePath stateField rest

/-- What an answer with an error status means: unavailable is pending, all else is fatal. -/
def refused? (source : String) (response : Response) : Option (PollOutcome JobObservation) :=
  if response.status = 503 then some (.pending (.json (.string (source ++ " unavailable"))))
  else if response.ok then none
  else
    some (.fatal (source ++ " answered " ++ toString response.status) (.string response.body))

/-- What the three states of one round mean. -/
def judge (jobId : String) (accepted : List JobState) (listed running : Option JobState)
    (tasks : Json) (record : Option TaskRecord) : PollOutcome JobObservation :=
  match record with
  | none => .fatal ("no persistent task record for job [" ++ jobId ++ "]") tasks
  | some record =>
    let observation : JobObservation := ⟨listed, running, some record⟩
    if observation.agreesOn accepted then .converged observation
    else .pending (.job observation)

/-- Read the state of the job from all three places once. -/
def observe (ctx : ScenarioContext) (jobId : String) (accepted : List JobState) :
    Action (PollOutcome JobObservation) := do
  let rollup ← ctx.serving Capability.rollupJobs
  let stateField ← (← ctx.serving Capability.taskStateField).textAt "field"
  let jobPath ← rollup.textAt "job_path"
  let jobs ← Action.call { method := "GET", path := jobPath ++ "/" ++ jobId }
  match refused? "job api" jobs with
  | some outcome => return outcome
  | none =>
    let listed ← listedState jobId (← jobs.object)
    let actions ← rollup.textAt "task_actions"
    let nodes ← Action.call
      { method := "GET", path := "/_tasks"
        params := some [("detailed", .string "true"), ("actions", .string actions)] }
    match refused? "task list" nodes with
    | some outcome => return outcome
    | none =>
      let running ← runningState (← nodes.object)
      let cluster ← Action.call { method := "GET", path := "/_cluster/state/metadata" }
      match refused? "cluster state" cluster with
      | some outcome => return outcome
      | none =>
        let body ← cluster.object
        let tasks ← (Json.object body).extractOr "metadata.persistent_tasks.tasks" (.array [])
        let taskName ← rollup.textAt "task_name"
        let statePath := "task." ++ taskName ++ "." ++ stateField ++ ".job_state"
        let record ← findRecord jobId statePath stateField (← tasks.elements)
        return judge jobId accepted listed running tasks record

def waitDescription (jobId : String) (accepted : List JobState) : String :=
  "rollup job [" ++ jobId ++ "] in "
    ++ Text.quotedList (Text.sorted (accepted.eraseDups.map JobState.text))

/-- Poll until all three places report the job in an accepted state. -/
def awaitRunning (settings : JobSettings) (ctx : ScenarioContext) : Action JobObservation := do
  let ref ← ctx.resource settings.jobId "job"
  let observation ← awaitConvergence ctx.harness.patience
    (observe ctx ref.name settings.acceptedStates) settings.poll.interval settings.poll.timeout
    (waitDescription ref.name settings.acceptedStates)
  Action.note .info "rollup_job_converged"
    [("job_id", .json (.string ref.name)),
     ("states", .json (.array (observation.states.map fun
       | some state => .string state.text
       | none => .null))),
     ("state_field", .json ((observation.record.map fun record =>
       Json.string record.stateField).getD .null))]
  return observation

/-- Send a request that must succeed, and decode the answer. -/
def require (request : Request) (attempted : String) : Action Json.Members := do
  let response ← requireOk (← Action.call request) attempted
  response.object

/-- Store the documents, create the job and start it. -/
def create (settings : JobSettings) (ctx : ScenarioContext) : Action Unit := do
  let ref ← ctx.resource settings.jobId "job"
  let source ← ctx.resource sourceIndex
  let rollup ← ctx.serving Capability.rollupJobs
  let year ← Action.query (.drawNumber 1970 2018)
  let bulk ← require
    { method := "POST", path := "/_bulk", params := some [("refresh", .string "true")]
      body := some (.string (bulkBody source.name year settings.documents.toNat))
      contentType := "application/x-ndjson" }
    "indexing rollup source documents"
  check (!(bulk.getOrNull "errors").isTrue)
    ("bulk indexing reported errors: " ++ Json.display (.object bulk))
  let jobPath := (← rollup.textAt "job_path") ++ "/" ++ ref.name
  let created ← require { method := "PUT", path := jobPath, body := some jobBody }
    ("creating rollup job " ++ ref.name)
  check (created.getOrNull "acknowledged").isTrue
    ("rollup job " ++ ref.name ++ " not acknowledged")
  let started ← require { method := "POST", path := jobPath ++ "/_start" }
    ("starting rollup job " ++ ref.name)
  check (started.getOrNull "started").isTrue ("rollup job " ++ ref.name ++ " did not start")
  let _ ← awaitRunning settings ctx

def verify (settings : JobSettings) (ctx : ScenarioContext) : Action Unit := do
  let _ ← Health.await ctx.harness.table ctx.config.oldVersion
  let _ ← awaitRunning settings ctx

def scenario (settings : JobSettings) (table : CapabilityTable) : Scenario where
  name := name
  resources := [⟨settings.jobId, "job"⟩, { name := sourceIndex }]
  preUpgrade := create settings
  postUpgrade := verify settings
  appliesTo := Scenario.requires table Capability.rollupJobs

end RestartCheck.BackgroundJob
