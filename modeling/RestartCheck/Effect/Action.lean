import RestartCheck.Effect.Procedure
import RestartCheck.Log.Rendering
import RestartCheck.Migration.Status
import RestartCheck.Resource

/-!
# Actions

An action is a procedure that may fail and that carries the memory of a session: the migration state
last seen for each resource, the context bound for log entries, and how these are written.  The
memory outlives a failure.

**Logging.**  Most entries tell texts and small numbers and are always written.  An entry that shows
what the service has answered fails when that cannot be written.

**Results.**
* `Action.run_attempt`: catching the failure of an action changes neither its effects nor its
  memory.
-/

namespace RestartCheck

/-- The memory of a session.  Until it is settled how entries are written they are only recorded. -/
structure Session where
  statuses : OrderedMap ResourceRef MigrationStatus := []
  context : LogFields := []
  logging : Option LoggingSettings := none
deriving Inhabited

/-- What keeps a value from being written in an entry of the level. -/
def Session.obstacle? (session : Session) (level : LogLevel) (value : Observed) :
    Option Json.Obstacle :=
  session.logging.bind fun settings => settings.obstacle? level value

@[simp] theorem Session.obstacle?_text (session : Session) (level : LogLevel) (text : String) :
    session.obstacle? level (.json (.string text)) = none := by
  cases h : session.logging <;> simp [Session.obstacle?, h]

@[simp] theorem Session.obstacle?_null (session : Session) (level : LogLevel) :
    session.obstacle? level (.json .null) = none := by
  cases h : session.logging <;> simp [Session.obstacle?, h]

/-- A procedure that may fail and that carries the memory of a session. -/
abbrev Action (α : Type) := ExceptT Failure (StateT Session Procedure) α

namespace Action

variable {α β : Type}

/-- The procedure of an action that starts with the given memory. -/
def start (action : Action α) (session : Session) : Procedure (Except Failure α × Session) :=
  (ExceptT.run action).run session

/-- Ask one question. -/
def query (q : Query) : Action q.Answer :=
  ExceptT.lift (StateT.lift (Procedure.query q))

/-- The action has no result. -/
def stuck : Action α :=
  ExceptT.lift (StateT.lift Procedure.stuck)

/-- A result that is known already. -/
def ofExcept (result : Except Failure α) : Action α :=
  ExceptT.mk (pure result)

instance : MonadLift (Except Failure) (ExceptT Failure (StateT Session Procedure)) :=
  ⟨ofExcept⟩

def fail (failure : Failure) : Action α :=
  ofExcept (.error failure)

/-- Send a request and wait for the answer. -/
def call (request : Request) : Action Response := do
  let answer ← query (.call request)
  ofExcept answer

/-- Write a log entry in the bound context. -/
def note (level : LogLevel) (event : String) (fields : LogFields := []) : Action Unit := do
  let session ← get
  query (.log ⟨level, .string event, fields, session.context⟩)

/-- Write a log entry that shows a value, behind the other fields. -/
def noteShowing (level : LogLevel) (event : String) (fields : LogFields) (name : String)
    (value : Observed) : Action Unit := do
  let session ← get
  match session.obstacle? level value with
  | some obstacle => fail (.defect (.ofObstacle obstacle))
  | none => note level event (fields ++ [(name, value)])

/-- Run an action and hand over its failure instead of failing. -/
def attempt (action : Action α) : Action (Except Failure α) :=
  ExceptT.mk (Except.ok <$> ExceptT.run action)

/-- Run an action with more context bound, and restore the context however it ends. -/
def within (bound : LogFields) (action : Action α) : Action α := do
  let before := (← get).context
  modify fun session => { session with context := OrderedMap.update before bound }
  let result ← attempt action
  modify fun session => { session with context := before }
  ofExcept result

/-- Run the actions in order and collect their results. -/
def forEach (items : List α) (action : α → Action β) : Action (List β) :=
  match items with
  | [] => pure []
  | item :: rest => do
    let first ← action item
    let others ← forEach rest action
    return first :: others

/-- Run the actions in order. -/
def each (items : List α) (action : α → Action Unit) : Action Unit :=
  match items with
  | [] => pure ()
  | item :: rest => do
    action item
    each rest action

/-- An attempt never fails: the failure becomes its value. -/
theorem run_attempt (action : Action α) (session : Session) :
    (attempt action).start session =
      action.start session >>= fun result => pure (Except.ok result.1, result.2) := by
  simp [attempt, start, ExceptT.run_mk]

end Action

end RestartCheck
