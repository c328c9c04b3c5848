import RestartCheck.Proofs.Json.Order
import RestartCheck.Proofs.Scenario.Shapes

/-!
# The order of tasks

The task list is read up to its first task, whatever job this task belongs to.  Every task of the
list shows whether its state is accepted, and a broken node shows that the list cannot be read.
Which of them is met first depends on the order of the members: each of them comes first in some
order.

**Results.**
* `shows_or_none`: what is read is shown by some node.
* `shows_iff_of_reordered`: what the nodes show does not depend on the order.
* `tasksAgree_iff`: what is read does not depend on the order exactly when all nodes show the same.
-/

namespace RestartCheck
namespace BackgroundJob

open RestartCheck.Json

/-- What reading the task list comes to: it is broken, or the state found is accepted or not. -/
inductive TaskReading
  | broken
  | state (isAccepted : Bool)
deriving DecidableEq, Repr

/-- The state was found and is accepted. -/
def isIn (accepted : List JobState) : Option JobState → Bool
  | some state => accepted.contains state
  | none => false

def readingOf (accepted : List JobState) : Except Failure (Option JobState) → TaskReading
  | .ok found => .state (isIn accepted found)
  | .error _ => .broken

/-- What a node shows: one of its tasks, or that it is broken. -/
inductive NodeShows (accepted : List JobState) : Json → TaskReading → Prop
  | broken {node : Json} (hbroken : IsBrokenNode node) : NodeShows accepted node .broken
  | task
      {fields tasks : Json.Members} {name : String} {task : Json} {state : Option Json}
      (htasks : Json.Members.getOrNull fields "tasks" = .object tasks)
      (hmem : (name, task) ∈ tasks)
      (hstate : task.find "status.job_state" = .ok state) :
      NodeShows accepted (.object fields)
        (.state (accepted.contains (JobState.ofJson (state.getD .null))))

/-- What one of the nodes shows. -/
def Shows
    (accepted : List JobState)
    (nodes : Json.Members)
    (reading : TaskReading) : Prop :=
  ∃ name node, (name, node) ∈ nodes ∧ NodeShows accepted node reading

/-- All tasks in the list are in an accepted state or none is, and no node is broken beside a task.
-/
def TasksAgree
    (accepted : List JobState)
    (body : Json.Members) : Prop :=
  ∀ nodes reading reading',
    body.getOrNull "nodes" = .object nodes →
    Shows accepted nodes reading → Shows accepted nodes reading' → reading = reading'

section Nodes

variable {accepted : List JobState} {node node' : Json} {fields fields' : Json.Members}
  {reading : TaskReading}

/-! ## The first task -/

theorem not_nodeShows_of_isIdle
    (hidle : IsIdle node) :
    ¬NodeShows accepted node reading := by
  intro hshows
  cases hshows with
  | broken hbroken => exact hidle.not_isBrokenNode hbroken
  | task htasks hmem _ =>
      have hfalsy := isIdle_object_iff.mp hidle
      rw [htasks] at hfalsy
      cases hmem with
      | _ => cases hfalsy

theorem shows_cons_iff
    {name : String} {rest : Json.Members} :
    Shows accepted ((name, node) :: rest) reading ↔
      NodeShows accepted node reading ∨ Shows accepted rest reading := by
  unfold Shows
  constructor
  · rintro ⟨known, found, hmem, hshows⟩
    rcases List.mem_cons.mp hmem with heq | hrest
    · cases heq
      exact Or.inl hshows
    · exact Or.inr ⟨known, found, hrest, hshows⟩
  · rintro (hshows | ⟨known, found, hmem, hshows⟩)
    · exact ⟨name, node, List.mem_cons_self, hshows⟩
    · exact ⟨known, found, List.mem_cons_of_mem _ hmem, hshows⟩

/-- What is read is shown by some node; no task is found only when no node shows anything. -/
theorem shows_or_none
    (accepted : List JobState)
    (nodes : Json.Members) :
    Shows accepted nodes (readingOf accepted (firstTaskState (nodes.map Prod.snd))) ∨
      firstTaskState (nodes.map Prod.snd) = .ok none ∧
        ∀ reading, ¬Shows accepted nodes reading := by
  induction nodes with
  | nil =>
      refine Or.inr ⟨rfl, ?_⟩
      rintro reading ⟨_, _, hmem, _⟩
      cases hmem
  | cons member rest ih =>
      obtain ⟨name, node⟩ := member
      rw [List.map_cons]
      rcases node_cases node with hbroken | hidle | ⟨fields, _, task, others, rfl, htasks⟩
      · rw [firstTaskState_of_broken _ hbroken]
        exact Or.inl (shows_cons_iff.mpr (Or.inl (.broken hbroken)))
      · rw [firstTaskState_of_isIdle _ hidle]
        simpa [shows_cons_iff, not_nodeShows_of_isIdle hidle] using ih
      · obtain ⟨state, hstate⟩ := exists_find_eq_ok task isPlainPath_jobState
        rw [firstTaskState_of_task _ htasks hstate]
        exact Or.inl (shows_cons_iff.mpr (Or.inl (.task htasks List.mem_cons_self hstate)))

/-- The only failure of the reading is that of a broken node. -/
theorem eq_of_firstTaskState_error
    {nodes : List Json} {failure : Failure}
    (hfailed : firstTaskState nodes = .error failure) :
    failure = .defect .noSuchOperation := by
  induction nodes with
  | nil => cases hfailed
  | cons node rest ih =>
      rcases node_cases node with hbroken | hidle | ⟨fields, _, task, others, rfl, htasks⟩
      · rw [firstTaskState_of_broken _ hbroken] at hfailed
        cases hfailed
        rfl
      · rw [firstTaskState_of_isIdle _ hidle] at hfailed
        exact ih hfailed
      · obtain ⟨state, hstate⟩ := exists_find_eq_ok task isPlainPath_jobState
        rw [firstTaskState_of_task _ htasks hstate] at hfailed
        cases hfailed

/-! ## Other orders -/

theorem ofJson_of_reordered
    {data data' : Json}
    (hreordered : Reordered data data') :
    JobState.ofJson data = JobState.ofJson data' := by
  cases hreordered with
  | refl => rfl
  | array _ => rfl
  | object _ _ _ => rfl

theorem exists_states_of_reordered
    {task task' : Json}
    (hreordered : Reordered task task') :
    ∃ state state',
      task.find "status.job_state" = .ok state ∧ task'.find "status.job_state" = .ok state' ∧
      JobState.ofJson (state.getD .null) = JobState.ofJson (state'.getD .null) := by
  obtain ⟨state, state', hstate, hstate', hrelated⟩ :=
    hreordered.exists_find isPlainPath_jobState
  refine ⟨state, state', hstate, hstate', ?_⟩
  cases hrelated with
  | none => rfl
  | some hvalue => exact ofJson_of_reordered hvalue

theorem nodeShows_object_iff_of_reordered
    (hreordered : Reordered (.object fields) (.object fields')) :
    NodeShows accepted (.object fields) reading ↔ NodeShows accepted (.object fields') reading := by
  have htasks := hreordered.getOrNull "tasks"
  have hbroken : IsBrokenNode (.object fields) ↔ IsBrokenNode (.object fields') := by
    rw [isBrokenNode_object_iff, isBrokenNode_object_iff, htasks.truthy, htasks.isObject]
  constructor
  · intro hshows
    cases hshows with
    | broken hfields => exact .broken (hbroken.mp hfields)
    | task hknown hmem hstate =>
        rw [hknown] at htasks
        obtain ⟨tasks', hknown'⟩ := htasks.exists_members
        rw [hknown'] at htasks
        obtain ⟨task', hmem', htask⟩ := htasks.exists_mem hmem
        obtain ⟨state, state', hfound, hstate', hsame⟩ := exists_states_of_reordered htask
        cases hstate.symm.trans hfound
        rw [hsame]
        exact .task hknown' hmem' hstate'
  · intro hshows
    cases hshows with
    | broken hfields' => exact .broken (hbroken.mpr hfields')
    | task hknown' hmem' hstate' =>
        rw [hknown'] at htasks
        obtain ⟨tasks, hknown⟩ := isObject_iff.mp (htasks.isObject.trans rfl)
        rw [hknown] at htasks
        obtain ⟨task, hmem, htask⟩ := htasks.exists_mem' hmem'
        obtain ⟨state, state', hstate, hfound', hsame⟩ := exists_states_of_reordered htask
        cases hstate'.symm.trans hfound'
        rw [← hsame]
        exact .task hknown hmem hstate

theorem nodeShows_iff_of_reordered
    (hreordered : Reordered node node') :
    NodeShows accepted node reading ↔ NodeShows accepted node' reading := by
  cases hreordered with
  | refl => rfl
  | array _ =>
      constructor
      · rintro ⟨_⟩
        exact .broken (Or.inl rfl)
      · rintro ⟨_⟩
        exact .broken (Or.inl rfl)
  | object hdistinct hmembers hperm =>
      exact nodeShows_object_iff_of_reordered (.object hdistinct hmembers hperm)

/-- What the nodes show does not depend on the order. -/
theorem shows_iff_of_reordered
    {nodes nodes' : Json.Members}
    (hreordered : Reordered (.object nodes) (.object nodes')) :
    Shows accepted nodes reading ↔ Shows accepted nodes' reading := by
  constructor
  · rintro ⟨name, node, hmem, hshows⟩
    obtain ⟨node', hmem', hnode⟩ := hreordered.exists_mem hmem
    exact ⟨name, node', hmem', (nodeShows_iff_of_reordered hnode).mp hshows⟩
  · rintro ⟨name, node', hmem', hshows⟩
    obtain ⟨node, hmem, hnode⟩ := hreordered.exists_mem' hmem'
    exact ⟨name, node, hmem, (nodeShows_iff_of_reordered hnode).mpr hshows⟩

/-- Each task of a node comes first in some order of its members. -/
theorem NodeShows.exists_first
    (hshows : NodeShows accepted node reading)
    (hdistinct : IsDistinct node) :
    ∃ node',
      Reordered node node' ∧
      ∀ rest, readingOf accepted (firstTaskState (node' :: rest)) = reading := by
  cases hshows with
  | broken hbroken =>
      exact ⟨node, .refl node, fun rest => congrArg _ (firstTaskState_of_broken rest hbroken)⟩
  | @task fields tasks name task state htasks hmem hstate =>
      have hlookup := (Members.getOrNull_eq_iff (by simp)).mp htasks
      cases hdistinct with
      | object hnames hmembers =>
          have hinner : IsDistinct (.object tasks) :=
            hmembers _ (OrderedMap.mem_of_lookup_eq_some hlookup)
          cases hinner with
          | object htaskNames _ =>
              obtain ⟨others, hfirst⟩ := Reordered.exists_first htaskNames hmem (.refl task)
              refine ⟨_, Reordered.put hnames hlookup hfirst, fun rest => ?_⟩
              rw [firstTaskState_of_task rest (Members.getOrNull_put_self _ _ _) hstate]
              rfl

end Nodes

/-! ## The task list -/

section Body

variable {accepted : List JobState} {body body' nodes : Json.Members} {reading : TaskReading}

theorem runningState_of_nodes
    (hnodes : body.getOrNull "nodes" = .object nodes) :
    runningState body = firstTaskState (nodes.map Prod.snd) := by
  unfold runningState
  rw [hnodes, presentValues_object]
  rfl

/-- Each task of the list comes first in some order of the members. -/
theorem Shows.exists_first
    (hshows : Shows accepted nodes reading)
    (hnodes : body.getOrNull "nodes" = .object nodes)
    (hdistinct : IsDistinct (.object body)) :
    ∃ body',
      Reordered (.object body) (.object body') ∧
      readingOf accepted (runningState body') = reading := by
  obtain ⟨name, node, hmem, hnode⟩ := hshows
  have hlookup := (Members.getOrNull_eq_iff (by simp)).mp hnodes
  cases hdistinct with
  | object hnames hmembers =>
      have hinner : IsDistinct (.object nodes) :=
        hmembers _ (OrderedMap.mem_of_lookup_eq_some hlookup)
      cases hinner with
      | object hnodeNames hall =>
          obtain ⟨node', hreordered, hread⟩ := hnode.exists_first (hall _ hmem)
          obtain ⟨others, hfirst⟩ := Reordered.exists_first hnodeNames hmem hreordered
          refine ⟨_, Reordered.put hnames hlookup hfirst, ?_⟩
          rw [runningState_of_nodes (Members.getOrNull_put_self _ _ _)]
          exact hread _

theorem TasksAgree.readingOf_eq
    (hagree : TasksAgree accepted body)
    (hreordered : Reordered (.object body) (.object body')) :
    readingOf accepted (runningState body) = readingOf accepted (runningState body') := by
  have hnodes := hreordered.getOrNull "nodes"
  cases hobject : (body.getOrNull "nodes").isObject with
  | true =>
      obtain ⟨nodes, hknown⟩ := isObject_iff.mp hobject
      rw [hknown] at hnodes
      obtain ⟨nodes', hknown'⟩ := hnodes.exists_members
      rw [hknown'] at hnodes
      rw [runningState_of_nodes hknown, runningState_of_nodes hknown']
      rcases shows_or_none accepted nodes with hshows | ⟨hnone, hnothing⟩
      · rcases shows_or_none accepted nodes' with hshows' | ⟨_, hnothing'⟩
        · exact hagree nodes _ _ hknown hshows ((shows_iff_of_reordered hnodes).mpr hshows')
        · exact absurd ((shows_iff_of_reordered hnodes).mp hshows) (hnothing' _)
      · rcases shows_or_none accepted nodes' with hshows' | ⟨hnone', _⟩
        · exact absurd ((shows_iff_of_reordered hnodes).mpr hshows') (hnothing _)
        · rw [hnone, hnone']
  | false =>
      -- What is no object is either no list of nodes at all, or cannot be read in any order.
      have hobject' := hnodes.isObject.symm.trans hobject
      unfold runningState
      cases htruthy : (body.getOrNull "nodes").truthy with
      | true =>
          have htruthy' := hnodes.truthy.symm.trans htruthy
          rw [presentValues_of_broken htruthy hobject, presentValues_of_broken htruthy' hobject']
      | false =>
          have htruthy' := hnodes.truthy.symm.trans htruthy
          rw [presentValues_of_falsy htruthy, presentValues_of_falsy htruthy']

/-- The only failure of the reading is that of something that stands for an object. -/
theorem eq_of_runningState_error
    {failure : Failure}
    (hfailed : runningState body = .error failure) :
    failure = .defect .noSuchOperation := by
  unfold runningState at hfailed
  cases htruthy : (body.getOrNull "nodes").truthy with
  | false =>
      rw [presentValues_of_falsy htruthy] at hfailed
      exact eq_of_firstTaskState_error hfailed
  | true =>
      cases hobject : (body.getOrNull "nodes").isObject with
      | false =>
          rw [presentValues_of_broken htruthy hobject] at hfailed
          cases hfailed
          rfl
      | true =>
          obtain ⟨nodes, hnodes⟩ := isObject_iff.mp hobject
          rw [hnodes, presentValues_object] at hfailed
          exact eq_of_firstTaskState_error hfailed

/-- What is read does not depend on the order of the members exactly when all tasks agree. -/
theorem tasksAgree_iff
    (hdistinct : IsDistinct (.object body)) :
    TasksAgree accepted body ↔
      ∀ body', Reordered (.object body) (.object body') →
        readingOf accepted (runningState body) = readingOf accepted (runningState body') := by
  constructor
  · exact fun hagree body' hreordered => hagree.readingOf_eq hreordered
  · intro hall nodes reading reading' hnodes hshows hshows'
    obtain ⟨first, hfirst, hread⟩ := hshows.exists_first hnodes hdistinct
    obtain ⟨second, hsecond, hread'⟩ := hshows'.exists_first hnodes hdistinct
    rw [← hread, ← hread', ← hall first hfirst, ← hall second hsecond]

end Body

end BackgroundJob
end RestartCheck
