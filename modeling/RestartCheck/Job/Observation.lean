import RestartCheck.Json.Literal
import RestartCheck.Text.LowerCase

/-!
# Observations of a background job

The state of a job can be read from three places: the job listing, the list of running tasks and the
persistent task records of the cluster.  One observation holds what one round of reading found.

**Results.**
* `JobState.ofJson_eq_iff`, `JobState.ofJson_eq_unknown_iff`: which words a state is read off.
* `agreesOn_iff`: the observation agrees on a set of states exactly when all three places reported a
  state of the set.
-/

namespace RestartCheck

inductive JobState
  | unknown
  | stopped
  | started
  | indexing
deriving DecidableEq, Repr, Inhabited

namespace JobState

def all : List JobState := [.unknown, .stopped, .started, .indexing]

def text : JobState → String
  | .unknown => "unknown"
  | .stopped => "stopped"
  | .started => "started"
  | .indexing => "indexing"

/-- The state that a word names exactly. -/
def ofText? (word : String) : Option JobState :=
  all.find? (·.text == word)

/-- The state that a decoded value names in any case; whatever names none is unknown. -/
def ofJson : Json → JobState
  | .string word => (ofText? (Text.lower word)).getD .unknown
  | _ => .unknown

/-- The words for the states are different. -/
theorem ofText?_eq_some_iff {word : String} {state : JobState} :
    ofText? word = some state ↔ word = state.text := by
  constructor
  · intro h
    have hfound := List.find?_some (p := fun known => text known == word) h
    exact (beq_iff_eq.mp hfound).symm
  · rintro rfl
    cases state <;> rfl

/-- A state that is known is read off its own word, in whatever case. -/
theorem ofJson_eq_iff {data : Json} {state : JobState} (hknown : state ≠ .unknown) :
    ofJson data = state ↔ ∃ word, data = .string word ∧ Text.lower word = state.text := by
  cases data with
  | string word =>
    simp only [ofJson, Json.string.injEq, exists_eq_left', ← ofText?_eq_some_iff]
    cases ofText? (Text.lower word) with
    | some found => simp
    | none => simpa using hknown.symm
  | _ => simpa [ofJson] using hknown.symm

/-- Whatever is no text or names no known state is unknown; so a state that is missing is. -/
theorem ofJson_eq_unknown_iff {data : Json} :
    ofJson data = .unknown ↔
      ∀ (word : String) (state : JobState),
        data = .string word → Text.lower word = state.text → state = .unknown := by
  constructor
  · intro h word state hdata hword
    refine Decidable.byContradiction fun hknown => ?_
    exact hknown (((ofJson_eq_iff hknown).mpr ⟨word, hdata, hword⟩).symm.trans h)
  · intro h
    refine Decidable.byContradiction fun hknown => ?_
    obtain ⟨word, hdata, hword⟩ := (ofJson_eq_iff hknown).mp rfl
    exact hknown (h word _ hdata hword)

/-- A state inside a message. -/
def literal : JobState → String
  | .unknown => "<JobState.UNKNOWN: 'unknown'>"
  | .stopped => "<JobState.STOPPED: 'stopped'>"
  | .started => "<JobState.STARTED: 'started'>"
  | .indexing => "<JobState.INDEXING: 'indexing'>"

end JobState

/-- The state found in the persistent task record of a job, and the field it was found under. -/
structure TaskRecord where
  id : String
  stateField : String
  state : JobState
deriving DecidableEq, Repr

/-- The job states found in one round of reading. -/
structure JobObservation where
  listed : Option JobState
  running : Option JobState
  record : Option TaskRecord
deriving DecidableEq, Repr

/-- An optional part inside a message. -/
def optionLiteral {α : Type} (render : α → String) : Option α → String
  | some value => render value
  | none => "None"

/-- A record inside a message. -/
def TaskRecord.literal (record : TaskRecord) : String :=
  "PersistentTaskRecord(id=" ++ Text.quoted record.id
    ++ ", state_field=" ++ Text.quoted record.stateField
    ++ ", state_value=" ++ record.state.literal ++ ")"

namespace JobObservation

/-- The states in the order of reading. -/
def states (o : JobObservation) : List (Option JobState) :=
  [o.listed, o.running, o.record.map TaskRecord.state]

/-- All three places report an accepted state. -/
def agreesOn (o : JobObservation) (accepted : List JobState) : Bool :=
  o.states.all fun
    | some state => accepted.contains state
    | none => false

/-- An observation inside a message. -/
def literal (o : JobObservation) : String :=
  "JobObservation(job_api=" ++ optionLiteral JobState.literal o.listed
    ++ ", task_list=" ++ optionLiteral JobState.literal o.running
    ++ ", persistent_task=" ++ optionLiteral TaskRecord.literal o.record ++ ")"

/-- An observation agrees when all three views of the job show an accepted state. -/
theorem agreesOn_iff {o : JobObservation} {accepted : List JobState} :
    o.agreesOn accepted = true ↔
      (∃ s ∈ accepted, o.listed = some s) ∧ (∃ s ∈ accepted, o.running = some s) ∧
        ∃ r, o.record = some r ∧ r.state ∈ accepted := by
  obtain ⟨listed, running, record⟩ := o
  cases listed <;> cases running <;> cases record <;> simp [agreesOn, states]

end JobObservation

end RestartCheck
