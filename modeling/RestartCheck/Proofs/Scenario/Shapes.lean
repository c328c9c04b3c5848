import RestartCheck.Scenario.Watcher
import RestartCheck.Proofs.Job.Round
import RestartCheck.Proofs.Json.Crash

/-!
# Answers of unexpected shape

The readings of the built-in scenarios look into answers without knowing their shape.  Each of them
crashes on some shapes: where something else than an object or an array stands for one.  All other
shapes are taken as they come, or are told by a failure of the checks.

**Results.**
* `crashesWhen_listedState`, `crashesWhen_runningState`, `crashesWhen_findRecord`: the three answers
  about a background job.
* `crashesWhen_nodeStates`, `failsWithin_checks_hitsOutcome`: the answers about the watcher.
-/

namespace RestartCheck

/-- The first of the items that is not passed over is broken. -/
def FirstIs
    (passed broken : Json → Prop)
    (items : List Json) : Prop :=
  ∃ front item back,
    items = front ++ item :: back ∧ (∀ other ∈ front, passed other) ∧ broken item

section FirstIs

variable {passed broken : Json → Prop}

theorem not_firstIs_nil : ¬FirstIs passed broken [] := by
  rintro ⟨front, item, back, hsplit, _⟩
  simp at hsplit

theorem firstIs_cons_iff
    {item : Json} {rest : List Json} :
    FirstIs passed broken (item :: rest) ↔
      broken item ∨ passed item ∧ FirstIs passed broken rest := by
  constructor
  · rintro ⟨front, last, back, hsplit, hfront, hbroken⟩
    cases front with
    | nil =>
        cases hsplit
        exact Or.inl hbroken
    | cons first others =>
        cases hsplit
        rw [List.forall_mem_cons] at hfront
        exact Or.inr ⟨hfront.1, others, last, back, rfl, hfront.2, hbroken⟩
  · rintro (hbroken | ⟨hpassed, front, last, back, rfl, hfront, hbroken⟩)
    · exact ⟨[], item, rest, rfl, List.forall_mem_nil _, hbroken⟩
    · exact ⟨item :: front, last, back, rfl, List.forall_mem_cons.mpr ⟨hpassed, hfront⟩, hbroken⟩

end FirstIs

namespace BackgroundJob

variable {jobId : String}

/-- The jobs are present, but cannot be stepped through. -/
def HasMalformedJobs (body : Json.Members) : Prop :=
  (body.getOrNull "jobs").truthy = true ∧ (body.getOrNull "jobs").isSequence = false

theorem failsWithin_checks_findJob
    {allowed : Failure → Prop}
    (jobId : String)
    (jobs : List Json) :
    FailsWithin allowed (findJob jobId jobs) := by
  induction jobs with
  | nil => exact failsWithin_ok none
  | cons job rest ih =>
      obtain ⟨id, hid⟩ := Json.exists_extractOr_eq_ok "config.id" job .null (by decide)
      unfold findJob
      rw [hid]
      refine failsWithin_bind (failsWithin_ok id) fun id => ?_
      split
      · exact failsWithin_ok _
      · exact ih

theorem crashesWhen_listedState
    (jobId : String)
    (body : Json.Members) :
    CrashesWhen (HasMalformedJobs body) (listedState jobId body) := by
  refine crashesWhen_bind_of_checked (Json.crashesWhen_presentElements (body.getOrNull "jobs"))
    fun jobs _ => failsWithin_bind (failsWithin_checks_findJob jobId jobs) fun found => ?_
  cases found with
  | none => exact failsWithin_ok none
  | some job =>
      exact failsWithin_bind (Json.failsWithin_checks_extract job (by decide)) fun _ =>
        failsWithin_ok _

/-- The node has no tasks. -/
def IsIdle (node : Json) : Prop :=
  ∃ members,
    node = .object members ∧ (Json.Members.getOrNull members "tasks").truthy = false

/-- The node is no object, or its tasks are present but no object. -/
def IsBrokenNode (node : Json) : Prop :=
  node.isObject = false ∨
    ∃ members,
      node = .object members ∧
      (Json.Members.getOrNull members "tasks").truthy = true ∧
      (Json.Members.getOrNull members "tasks").isObject = false

/-- The nodes are present but no object, or the first node that is not idle is broken. -/
def HasMalformedNodes (body : Json.Members) : Prop :=
  ((body.getOrNull "nodes").truthy = true ∧ (body.getOrNull "nodes").isObject = false) ∨
    ∃ nodes, body.getOrNull "nodes" = .object nodes ∧
      FirstIs IsIdle IsBrokenNode (nodes.map Prod.snd)

theorem firstTaskState_object
    (fields : Json.Members)
    (rest : List Json) :
    firstTaskState (.object fields :: rest) = (do
      match ← (Json.Members.getOrNull fields "tasks").presentValues with
      | [] => firstTaskState rest
      | task :: _ => do
        let state ← task.extractOr "status.job_state" .null
        .ok (some (JobState.ofJson state))) :=
  rfl

section Nodes

variable {node : Json} {fields others : Json.Members} {name : String} {task : Json}
  {state : Option Json}

/-- A node is broken, or it has no tasks, or it has a first one. -/
theorem node_cases
    (node : Json) :
    IsBrokenNode node ∨ IsIdle node ∨
      ∃ fields name task others,
        node = .object fields ∧
        Json.Members.getOrNull fields "tasks" = .object ((name, task) :: others) := by
  cases hobject : node.isObject with
  | false => exact Or.inl (Or.inl hobject)
  | true =>
      obtain ⟨fields, rfl⟩ := Json.isObject_iff.mp hobject
      cases htruthy : (Json.Members.getOrNull fields "tasks").truthy with
      | false => exact Or.inr (Or.inl ⟨fields, rfl, htruthy⟩)
      | true =>
          cases hvalues : (Json.Members.getOrNull fields "tasks").isObject with
          | false => exact Or.inl (Or.inr ⟨fields, rfl, htruthy, hvalues⟩)
          | true =>
              obtain ⟨tasks, htasks⟩ := Json.isObject_iff.mp hvalues
              rw [htasks] at htruthy
              cases tasks with
              | nil => cases htruthy
              | cons entry others =>
                  exact Or.inr (Or.inr ⟨fields, entry.1, entry.2, others, rfl, htasks⟩)

theorem isBrokenNode_object_iff :
    IsBrokenNode (.object fields) ↔
      (Json.Members.getOrNull fields "tasks").truthy = true ∧
        (Json.Members.getOrNull fields "tasks").isObject = false := by
  constructor
  · rintro (hobject | ⟨_, hfields, hbroken⟩)
    · cases hobject
    · cases hfields
      exact hbroken
  · exact fun hbroken => Or.inr ⟨fields, rfl, hbroken⟩

theorem isIdle_object_iff :
    IsIdle (.object fields) ↔ (Json.Members.getOrNull fields "tasks").truthy = false := by
  constructor
  · rintro ⟨_, hfields, hfalsy⟩
    cases hfields
    exact hfalsy
  · exact fun hfalsy => ⟨fields, rfl, hfalsy⟩

theorem IsIdle.not_isBrokenNode
    (hidle : IsIdle node) :
    ¬IsBrokenNode node := by
  obtain ⟨fields, rfl, hfalsy⟩ := hidle
  rw [isBrokenNode_object_iff, hfalsy]
  simp

theorem firstTaskState_of_broken
    (rest : List Json)
    (hbroken : IsBrokenNode node) :
    firstTaskState (node :: rest) = .error (.defect .noSuchOperation) := by
  rcases hbroken with hobject | ⟨fields, rfl, htruthy, hvalues⟩
  · cases node with
    | object fields => cases hobject
    | _ => rfl
  · rw [firstTaskState_object, Json.presentValues_of_broken htruthy hvalues]
    rfl

theorem firstTaskState_of_isIdle
    (rest : List Json)
    (hidle : IsIdle node) :
    firstTaskState (node :: rest) = firstTaskState rest := by
  obtain ⟨fields, rfl, hfalsy⟩ := hidle
  rw [firstTaskState_object, Json.presentValues_of_falsy hfalsy]
  rfl

theorem firstTaskState_of_task
    (rest : List Json)
    (htasks : Json.Members.getOrNull fields "tasks" = .object ((name, task) :: others))
    (hstate : task.find "status.job_state" = .ok state) :
    firstTaskState (.object fields :: rest) =
      .ok (some (JobState.ofJson (state.getD .null))) := by
  have hvalue : task.extractOr "status.job_state" .null = .ok (state.getD .null) :=
    Json.extractOr_eq_ok_iff.mpr ⟨state, hstate, rfl⟩
  rw [firstTaskState_object, htasks, Json.presentValues_object]
  change task.extractOr "status.job_state" .null >>= _ = _
  rw [hvalue]
  rfl

end Nodes

theorem isPlainPath_jobState : Json.IsPlainPath "status.job_state" := by
  decide

/-- A node without tasks is passed over, one with tasks ends the search, and a broken one crashes.
-/
theorem crashesWhen_firstTaskState
    (nodes : List Json) :
    CrashesWhen (FirstIs IsIdle IsBrokenNode nodes) (firstTaskState nodes) := by
  induction nodes with
  | nil => exact (crashesWhen_false (failsWithin_ok none)).congr (by simp [not_firstIs_nil])
  | cons node rest ih =>
      rcases node_cases node with hbroken | hidle | ⟨fields, name, task, others, rfl, htasks⟩
      · rw [firstTaskState_of_broken rest hbroken]
        exact (crashesWhen_true (crashes_error .noSuchOperation)).congr
          (by simp [firstIs_cons_iff, hbroken])
      · rw [firstTaskState_of_isIdle rest hidle]
        exact ih.congr (by simp [firstIs_cons_iff, hidle, hidle.not_isBrokenNode])
      · obtain ⟨state, hstate⟩ := Json.exists_find_eq_ok task isPlainPath_jobState
        rw [firstTaskState_of_task rest htasks hstate]
        refine (crashesWhen_false (failsWithin_ok _)).congr ?_
        rw [firstIs_cons_iff, isBrokenNode_object_iff, isIdle_object_iff, htasks]
        simp [Json.truthy, Json.isObject]

theorem crashesWhen_runningState
    (body : Json.Members) :
    CrashesWhen (HasMalformedNodes body) (runningState body) := by
  refine (crashesWhen_bind (Json.crashesWhen_presentValues (body.getOrNull "nodes"))
    fun nodes _ => crashesWhen_firstTaskState nodes).congr (or_congr Iff.rfl ?_)
  constructor
  · rintro ⟨values, hvalues, hfirst⟩
    cases values with
    | nil => exact absurd hfirst not_firstIs_nil
    | cons value others =>
        obtain ⟨nodes, hnodes, hall⟩ := Json.eq_object_of_presentValues hvalues
        exact ⟨nodes, hnodes, by rwa [hall]⟩
  · rintro ⟨nodes, hnodes, hfirst⟩
    refine ⟨nodes.map Prod.snd, ?_, hfirst⟩
    cases nodes with
    | nil => exact absurd hfirst not_firstIs_nil
    | cons node others =>
        rw [hnodes]
        rfl

/-- The record does not name the job. -/
def IsOtherRecord
    (jobId : String)
    (record : Json) : Prop :=
  ∃ fields, record = .object fields ∧ OrderedMap.lookup fields "id" ≠ some (.string jobId)

/-- The records are there but cannot be stepped through, or something that is no object stands in
front of the first record of the job. -/
def HasMalformedRecords
    (jobId : String)
    (body : Json.Members) : Prop :=
  ∃ records,
    (Json.object body).find "metadata.persistent_tasks.tasks" = .ok (some records) ∧
    (records.isSequence = false ∨
      ∃ items, records.elements = .ok items ∧
        FirstIs (IsOtherRecord jobId) (fun record => record.isObject = false) items)

/-- A record of another job is passed over, and what is no object crashes. -/
theorem crashesWhen_findRecord
    {path : String}
    (jobId stateField : String)
    (hplain : Json.IsPlainPath path)
    (records : List Json) :
    CrashesWhen (FirstIs (IsOtherRecord jobId) (fun record => record.isObject = false) records)
      (findRecord jobId path stateField records) := by
  induction records with
  | nil => exact (crashesWhen_false (failsWithin_ok none)).congr (by simp [not_firstIs_nil])
  | cons record rest ih =>
      by_cases hobject : record.isObject = false
      · refine (crashesWhen_true ?_).congr (by simp [firstIs_cons_iff, hobject])
        exact ((Json.crashesWhen_member record "id").crash hobject).bind _
      · obtain ⟨fields, rfl⟩ := Json.isObject_iff.mp (by simpa using hobject)
        have hfirst : FirstIs (IsOtherRecord jobId) (fun record => record.isObject = false)
              (.object fields :: rest) ↔
            OrderedMap.lookup fields "id" ≠ some (.string jobId) ∧
              FirstIs (IsOtherRecord jobId) (fun record => record.isObject = false) rest := by
          simp [firstIs_cons_iff, IsOtherRecord, hobject]
        refine CrashesWhen.congr ?_ hfirst.symm
        have hid : (Json.Members.getOrNull fields "id").same (.string jobId) = true ↔
            OrderedMap.lookup fields "id" = some (.string jobId) := by
          rw [Json.same_string_iff, Json.Members.getOrNull_eq_iff (by simp)]
        change CrashesWhen _ (if (Json.Members.getOrNull fields "id").same (.string jobId) = true
          then (Json.object fields).extractOr path .null >>= fun state =>
            .ok (some ⟨jobId, stateField, JobState.ofJson state⟩)
          else findRecord jobId path stateField rest)
        split
        · next hsame =>
            obtain ⟨state, hstate⟩ :=
              Json.exists_extractOr_eq_ok path (.object fields) .null hplain
            rw [hstate]
            exact (crashesWhen_false (failsWithin_ok _)).congr (by simp [hid.mp hsame])
        · next hother => exact ih.congr (by simp [mt hid.mpr hother])

theorem isPlainPath_statePath
    (version : Option Version) :
    Json.IsPlainPath (statePath (Capability.stateFieldAt version)) := by
  unfold Capability.stateFieldAt
  split
  · decide
  · decide

end BackgroundJob

namespace Watcher

/-- The stats are present, but they are no array of objects. -/
def HasMalformedStats (body : Json.Members) : Prop :=
  (body.getOrNull "stats").truthy = true ∧
    ¬∃ nodes, body.getOrNull "stats" = .array nodes ∧ ∀ node ∈ nodes, node.isObject = true

theorem crashesWhen_nodeStates
    (body : Json.Members) :
    CrashesWhen (HasMalformedStats body) (nodeStates body) := by
  have hmember : ∀ nodes : List Json, CrashesWhen (∃ node ∈ nodes, node.isObject = false)
      (nodes.mapM fun node => node.member "watcher_state") := fun nodes =>
    crashesWhen_mapM (fun node => Json.crashesWhen_member node _)
      fun node => Json.exists_member_eq_ok _
  refine (crashesWhen_bind (Json.crashesWhen_presentElements (body.getOrNull "stats"))
    fun nodes _ => hmember nodes).congr ?_
  unfold HasMalformedStats
  generalize body.getOrNull "stats" = stats
  by_cases htruthy : stats.truthy = true
  · rw [Json.presentElements, if_pos htruthy]
    cases stats with
    | array nodes => simp [htruthy, Json.isSequence]
    | object members =>
        -- Stepping through an object yields the names of its members, which are no objects.
        obtain ⟨member, others, rfl⟩ : ∃ member others, members = member :: others := by
          cases members with
          | nil => cases htruthy
          | cons member others => exact ⟨member, others, rfl⟩
        simp [htruthy, Json.elements, Json.isObject]
    | string text =>
        obtain ⟨c, others, htext⟩ : ∃ c others, text.toList = c :: others := by
          refine List.exists_cons_of_ne_nil ?_
          simpa [Json.truthy] using htruthy
        simp [htruthy, Json.elements, Json.isObject, htext]
    | _ => simp [htruthy, Json.isSequence]
  · rw [Json.presentElements, if_neg htruthy]
    simp [htruthy]

/-- The number of hits is read, or the checks tell why not. -/
theorem failsWithin_checks_hitsOutcome
    (minHits : Int)
    (body : Json) :
    FailsWithin Failure.IsOfChecks (hitsOutcome minHits (totalHits body)) := by
  have htotal : FailsWithin (fun failure =>
      failure.IsOfChecks ∨ ∃ message, failure = .defect (.badValue message)) (totalHits body) := by
    unfold totalHits
    refine failsWithin_bind ((Json.failsWithin_checks_extract body (by decide)).mono
      fun _ hchecks => Or.inl hchecks) fun total => ?_
    simp only
    split
    · exact failsWithin_ok _
    · exact failsWithin_error (Or.inr ⟨_, rfl⟩)
  unfold hitsOutcome
  split
  · exact failsWithin_ok _
  · exact failsWithin_ok _
  · next failure hvalue hfailed =>
      rcases htotal failure hfailed with hchecks | ⟨message, rfl⟩
      · exact failsWithin_error hchecks
      · exact absurd rfl (hvalue message)

end Watcher

end RestartCheck
