import RestartCheck.Run.Report
import RestartCheck.Scenario.Basic
import RestartCheck.Text.Order

/-!
# Running all scenarios

The halves for the phase of the run are executed one at a time in declared order.  A half that fails
is recorded and the run goes on; an unreachable service ends it, and the remaining scenarios are
recorded as not run.  A record tells the failure, and a failure that cannot be told breaks the run
off.

While a half runs, its scenario and phase are bound as context for log entries.

**Results.**
* `duplicates_eq_nil_iff`: a run is refused exactly when two scenarios share a name.
-/

namespace RestartCheck.Coordinator

/-- The names that occur more than once, in order. -/
def duplicates (names : List String) : List String :=
  Text.sorted ((names.filter fun name => decide (1 < names.count name)).eraseDups)

/-- The status of a scenario whose half ended with a failure. -/
def failedStatus (scenario : Scenario) : Failure → ScenarioStatus
  | .unsupported _ _ _ => if scenario.skipOnUnsupported then .skipped else .failed
  | _ => .failed

/-- The result of a half that ended with a failure.  A failure that cannot be told has none. -/
def failedResult (scenario : Scenario) (failure : Failure) : Except Failure ScenarioResult := do
  let reason ← failure.message
  return { name := scenario.name, status := failedStatus scenario failure
           reason := some reason, failureKind := some failure.kindName }

/-- The log entry about a half that ended with a failure. -/
def failedNote (scenario : Scenario) (failure : Failure) : Action Unit :=
  let kind : Observed := .json (.string failure.kindName)
  match failure with
  | .unsupported message _ _ =>
    Action.note .info "scenario_unsupported"
      [("status", .json (.string (failedStatus scenario failure).text)),
       ("reason", .json (.string message))]
  | .unreachable message =>
    Action.note .error "scenario_aborted_unreachable" [("error", .json (.string message))]
  | .defect _ =>
    Action.note .error "scenario_crashed"
      [("error_type", kind), ("exc_info", .json (.bool true))]
  | _ => do
    let message ← failure.message
    Action.note .error "scenario_failed"
      [("error_type", kind), ("error", .json (.string message))]

/-- The message of a failure that ends the whole run. -/
def abortReason? : Failure → Option String
  | .unreachable message => some message
  | _ => none

/-- Result of one scenario, and the reason to end the run if there is one. -/
abbrev Step := ScenarioResult × Option String

/-- Record how a half ended. -/
def conclude (scenario : Scenario) : Except Failure Unit → Action Step
  | .ok () => do
    Action.note .info "scenario_passed"
    return ({ name := scenario.name, status := .passed }, none)
  | .error failure => do
    failedNote scenario failure
    let result ← failedResult scenario failure
    return (result, abortReason? failure)

def contextOf (config : RunConfig) (scenario : Scenario) : LogFields :=
  [("scenario", .json (.string scenario.name)), ("phase", .json (.string config.phase.text))]

def runHalf (harness : Harness) (config : RunConfig) (scenario : Scenario) : Action Step :=
  Action.within (contextOf config scenario) do
    Action.note .info "scenario_started"
    let result ← Action.attempt
      (scenario.half config.phase ⟨config, harness, scenario.toDeclaration⟩)
    conclude scenario result

/-- The result of a scenario that is not applicable to a version, which it tells. -/
def skippedResult (scenario : Scenario) (version : Version) : Except Failure ScenarioResult :=
  match version.text? with
  | some text =>
    .ok { name := scenario.name, status := .skipped
          reason := some ("not applicable to " ++ text) }
  | none => .error .unwritten

def runOne (harness : Harness) (config : RunConfig) (scenario : Scenario) : Action Step := do
  if ← scenario.appliesTo config.oldVersion then runHalf harness config scenario
  else
    Action.note .info "scenario_skipped"
      [("scenario", .json (.string scenario.name)), ("reason", .json (.string "not applicable"))]
    let result ← skippedResult scenario config.oldVersion
    return (result, none)

/-- The result of a scenario that an aborted run does not reach. -/
def notRun (scenario : Scenario) : ScenarioResult :=
  { name := scenario.name, status := .notRun, reason := some "run aborted" }

/-- Run the scenarios in order, until one ends the run. -/
def runAll (harness : Harness) (config : RunConfig) :
    List Scenario → Action (List ScenarioResult × Option String)
  | [] => pure ([], none)
  | scenario :: rest => do
    let (result, abort) ← runOne harness config scenario
    match abort with
    | some reason => return (result :: rest.map notRun, some reason)
    | none => do
      let (results, abort) ← runAll harness config rest
      return (result :: results, abort)

def summaryFields (report : RunReport) : LogFields :=
  report.summary.map fun (status, count) => (status.text, .json (.int count))

/-- The opening entry of a run is logged, the scenarios are run, and their results are reported. -/
def runNamed (harness : Harness) (config : RunConfig) (scenarios : List Scenario)
    (version : String) : Action RunReport := do
  let phase : String × Observed := ("phase", .json (.string config.phase.text))
  Action.note .info "run_started"
    [phase, ("old_version", .json (.string version)),
     ("scenarios", .json (.array (scenarios.map fun scenario => .string scenario.name)))]
  let (results, abort) ← runAll harness config scenarios
  let report : RunReport :=
    ⟨config.phase, config.oldVersion, results, abort.isSome, abort⟩
  Action.note .info "run_finished" (phase :: summaryFields report)
  return report

/-- Run the half of each applicable scenario for the phase of the run.  Nothing is run when two
scenarios share a name, or when the old version is not written. -/
def run (harness : Harness) (config : RunConfig) (scenarios : List Scenario) :
    Action RunReport := do
  let repeated := duplicates (scenarios.map fun scenario => scenario.name)
  if !repeated.isEmpty then
    Action.fail (.defect (.badValue ("duplicate scenario names: " ++ Text.quotedList repeated)))
  match config.oldVersion.text? with
  | some version => runNamed harness config scenarios version
  | none => Action.fail .unwritten

/-- No name is repeated exactly when all names differ. -/
theorem duplicates_eq_nil_iff {names : List String} : duplicates names = [] ↔ names.Nodup := by
  have hmem : ∀ name, name ∈ duplicates names ↔ 1 < names.count name := by
    intro name
    simp only [duplicates, Text.mem_sorted, List.mem_eraseDups, List.mem_filter,
      decide_eq_true_eq, and_iff_right_iff_imp]
    intro h
    exact List.count_pos_iff.1 (Nat.lt_trans Nat.zero_lt_one h)
  rw [List.eq_nil_iff_forall_not_mem]
  simp only [hmem, Nat.not_lt, List.nodup_iff_count]

end RestartCheck.Coordinator
