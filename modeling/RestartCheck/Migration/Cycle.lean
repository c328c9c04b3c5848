import RestartCheck.Harness
import RestartCheck.Migration.Detection
import RestartCheck.Migration.Trigger
import RestartCheck.Poll.Convergence

/-!
# The migration cycle

Resources that need migration are triggered once each, in order; then detection is polled until none
is required or in progress.  Resources that are in progress already are waited for but not
triggered.

**Results.**
* `settledOutcome_pending_iff`: an answer leaves the wait pending exactly when it reports a resource
  as required or in progress.
-/

namespace RestartCheck.Migration

/-- Some resource is required or in progress. -/
def anyPending (statuses : OrderedMap ResourceRef MigrationStatus) : Bool :=
  statuses.any fun entry => entry.2.isPending

/-- The states by the text of the resource. -/
def statusObject (statuses : OrderedMap ResourceRef MigrationStatus) : Json :=
  .object (OrderedMap.ofPairs (statuses.map fun entry =>
    (entry.1.text, Json.string entry.2.text)))

/-- What detected states mean for the wait. -/
def settledOutcome (statuses : OrderedMap ResourceRef MigrationStatus) :
    PollOutcome (OrderedMap ResourceRef MigrationStatus) :=
  if anyPending statuses then .pending (.json (statusObject statuses)) else .converged statuses

/-- Detect once.  A service that is temporarily unavailable leaves the wait pending. -/
def settled (path : String) (refs : List ResourceRef) :
    Action (PollOutcome (OrderedMap ResourceRef MigrationStatus)) := do
  match ← Action.attempt (detect path refs) with
  | .ok statuses => return settledOutcome statuses
  | .error (.unavailable message _) => return .pending (.json (.string message))
  | .error failure => Action.fail failure

/-- Poll detection until no resource is required or in progress. -/
def awaitMigrated (harness : Harness) (refs : List ResourceRef) (interval timeout : Float) :
    Action (OrderedMap ResourceRef MigrationStatus) :=
  awaitConvergence harness.patience (settled harness.assistancePath refs) interval timeout
    ("migration of " ++ ", ".intercalate (refs.map ResourceRef.text))

/-- Trigger the required resources in order; those triggered before are given in `done`. -/
def triggerRequired (path : String) (done : OrderedMap ResourceRef MigrationOutcome) :
    OrderedMap ResourceRef MigrationStatus → Action (OrderedMap ResourceRef MigrationOutcome)
  | [] => pure done
  | (ref, status) :: rest =>
    if status = .required then do
      let outcome ← migrate path ref
      triggerRequired path (OrderedMap.put done ref outcome) rest
    else triggerRequired path done rest

/-- Trigger every resource that needs migration and wait until all are migrated.  The outcomes are
empty when nothing needed migration. -/
def migratePending (harness : Harness) (refs : List ResourceRef) (interval timeout : Float) :
    Action (OrderedMap ResourceRef MigrationOutcome) := do
  let statuses ← detect harness.assistancePath refs
  let outcomes ← triggerRequired harness.upgradePath [] statuses
  if anyPending statuses then
    let _ ← awaitMigrated harness refs interval timeout
  else
    Action.note .info "migration_not_needed"
      [("resources", .json (.array (refs.map fun ref => .string ref.text)))]
  return outcomes

/-- Nothing is pending when every status is settled. -/
theorem anyPending_eq_false_iff {statuses : OrderedMap ResourceRef MigrationStatus} :
    anyPending statuses = false ↔ ∀ entry ∈ statuses, entry.2.isPending = false := by
  simp [anyPending]

/-- The wait goes on exactly while something is pending. -/
theorem settledOutcome_pending_iff {statuses : OrderedMap ResourceRef MigrationStatus} :
    (∃ seen, settledOutcome statuses = .pending seen) ↔
      ∃ entry ∈ statuses, entry.2.isPending = true := by
  have hany : anyPending statuses = true ↔ ∃ entry ∈ statuses, entry.2.isPending = true := by
    simp [anyPending]
  rw [← hany]
  by_cases h : anyPending statuses = true <;> simp [settledOutcome, h]

end RestartCheck.Migration
