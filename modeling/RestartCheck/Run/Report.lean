import RestartCheck.Run.Config
import RestartCheck.Failure

/-!
# Run reports

The report of a run lists one result per scenario.  A run passes when nothing failed and it was not
aborted.

**Results.**
* `RunReport.passed_iff`: when a run passes.
-/

namespace RestartCheck

/-- Final classification of one scenario in one phase. -/
inductive ScenarioStatus
  | passed
  | failed
  | skipped
  | notRun
deriving DecidableEq, Repr, Inhabited

namespace ScenarioStatus

def all : List ScenarioStatus := [.passed, .failed, .skipped, .notRun]

def text : ScenarioStatus → String
  | .passed => "passed"
  | .failed => "failed"
  | .skipped => "skipped"
  | .notRun => "not_run"

def ofText? (word : String) : Option ScenarioStatus :=
  all.find? (·.text == word)

end ScenarioStatus

/-- Result of running one half of a scenario. -/
structure ScenarioResult where
  name : String
  status : ScenarioStatus
  reason : Option String := none
  failureKind : Option String := none
deriving DecidableEq, Repr, Inhabited

structure RunReport where
  phase : Phase
  oldVersion : Version
  results : List ScenarioResult := []
  aborted : Bool := false
  abortReason : Option String := none
deriving DecidableEq, Repr

namespace RunReport

def withStatus (report : RunReport) (status : ScenarioStatus) : List ScenarioResult :=
  report.results.filter fun result => result.status == status

/-- Nothing failed and the run was not aborted. -/
def passed (report : RunReport) : Bool :=
  !report.aborted && (report.withStatus .failed).isEmpty

/-- The number of results with each status. -/
def summary (report : RunReport) : List (ScenarioStatus × Nat) :=
  ScenarioStatus.all.map fun status => (status, (report.withStatus status).length)

/-- A run passes when it was not aborted and nothing failed. -/
theorem passed_iff {report : RunReport} :
    report.passed = true ↔
      report.aborted = false ∧ ∀ result ∈ report.results, result.status ≠ .failed := by
  simp [passed, withStatus, List.filter_eq_nil_iff]

end RunReport

end RestartCheck
