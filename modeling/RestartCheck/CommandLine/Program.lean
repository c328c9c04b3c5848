import RestartCheck.CommandLine.Arguments
import RestartCheck.Run.Phase
import RestartCheck.Settings.Loading

/-!
# The program

A run from its arguments to its exit status.  Settings and inputs are checked before the service is
connected to; once it is, the connection is closed however the run ends.

**Results.**
* `statusOf_eq_zero_iff`: the status is zero exactly when the run passes.
-/

namespace RestartCheck.CommandLine

inductive Exit
  /-- The run was not attempted, because help was asked for or the arguments are misused. -/
  | refused (refusal : Refusal)
  /-- The program ends with a status. -/
  | status (code : Nat)
  /-- A defect ends the program. -/
  | crashed (failure : Failure)

/-- Everything passed. -/
def okStatus : Nat := 0

def failedStatus : Nat := 1

/-- Settings or inputs are missing or faulty. -/
def configurationStatus : Nat := 2

/-- The run was aborted. -/
def abortedStatus : Nat := 3

def statusOf (report : RunReport) : Nat :=
  if report.aborted then abortedStatus
  else if report.passed then okStatus
  else failedStatus

/-- The status of the process for a way to end.  A defect counts as a failure. -/
def Exit.code : Exit → Nat
  | .refused .help => okStatus
  | .refused .misuse => configurationStatus
  | .status code => code
  | .crashed _ => failedStatus

def noteError (event : String) (fields : LogFields) : Procedure Unit :=
  Procedure.query (.log ⟨.error, .string event, fields, []⟩)

/-- Log the reason of an aborted run. -/
def noteAbort (report : RunReport) : Procedure Unit :=
  if report.aborted then
    noteError "run_aborted" [("reason", Run.optionalText report.abortReason)]
  else pure ()

/-- The inputs of a run.  A phase that is given as nothing is no phase, but an old version that is
leaves the choice to the settings. -/
def Arguments.config (arguments : Arguments) (settings : Settings) : Except Failure RunConfig :=
  if arguments.phase = some .nothing then .error (.configuration "invalid phase: []")
  else
    RunConfig.ofSettings settings (arguments.phase.bind Given.text?)
      (arguments.oldVersion.bind Given.text?)

/-- Run the phase.  No scenario can be chosen by nothing. -/
def runPhase (settings : Settings) (config : RunConfig) (only : List Given) (patience : Nat) :
    Action RunReport :=
  match only.mapM Given.text? with
  | some names => Run.phase settings config Capability.standard names patience
  | none => Action.fail (.defect .wrongType)

/-- Connect, run the phase, and close the connection however the run ends. -/
def runConnected (settings : Settings) (config : RunConfig) (only : List Given)
    (patience : Nat) : Procedure Exit := do
  Procedure.query (.connect settings.client)
  let (result, _) ← Action.start (runPhase settings config only patience)
    { logging := some settings.logging }
  Procedure.query .disconnect
  match result with
  | .error failure => return .crashed failure
  | .ok report =>
    noteAbort report
    return .status (statusOf report)

def runWith (settings : Settings) (arguments : Arguments) (patience : Nat) :
    Procedure Exit := do
  Procedure.query (.setUpLogging settings.logging)
  match arguments.config settings with
  | .error (.configuration message) =>
    noteError "configuration_error" [("error", .json (.string message))]
    return .status configurationStatus
  | .error failure => return .crashed failure
  | .ok config => runConnected settings config arguments.scenarios patience

def runArguments (surroundings : Settings.Surroundings) (arguments : Arguments) (patience : Nat) :
    Procedure Exit := do
  match ← surroundings.loadOnce none with
  | .ok settings => runWith settings arguments patience
  | .error (.defect failure) => return .crashed failure
  | .error failure =>
    Procedure.query (.setUpLogging {})
    noteError "settings_error" [("error", .json (.string failure.message))]
    return .status configurationStatus

def program (surroundings : Settings.Surroundings) (texts : List String) (patience : Nat) :
    Procedure Exit :=
  match parse texts with
  | .error refusal => pure (.refused refusal)
  | .ok arguments => runArguments surroundings arguments patience

/-- The status is zero exactly when the run passes. -/
theorem statusOf_eq_zero_iff {report : RunReport} :
    statusOf report = okStatus ↔ report.passed = true := by
  unfold statusOf okStatus abortedStatus failedStatus
  by_cases ha : report.aborted = true
  · simp [ha, RunReport.passed]
  · by_cases hp : report.passed = true <;> simp [ha, hp]

end RestartCheck.CommandLine
