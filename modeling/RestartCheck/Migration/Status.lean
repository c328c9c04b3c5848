/-!
# Migration states

The state of one resource only ever advances: from required over in progress to one of the two final
states.

**Results.**
* `MigrationStatus.rank_le_two`: the lifecycle has three positions.
* `MigrationStatus.isPending_iff`: exactly the positions before the last are pending.
* `MigrationStatus.isPending_eq_false_iff`: the two final states.
-/

namespace RestartCheck

/-- Migration state of a resource. -/
inductive MigrationStatus
  | notRequired
  | required
  | inProgress
  | completed
deriving DecidableEq, Repr, Inhabited

namespace MigrationStatus

/-- Every state. -/
def all : List MigrationStatus := [.notRequired, .required, .inProgress, .completed]

/-- The word for a state. -/
def text : MigrationStatus → String
  | .notRequired => "not_required"
  | .required => "required"
  | .inProgress => "in_progress"
  | .completed => "completed"

/-- The state that a word names. -/
def ofText? (word : String) : Option MigrationStatus :=
  all.find? (·.text == word)

/-- Position in the lifecycle, which only ever advances. -/
def rank : MigrationStatus → Nat
  | .required => 0
  | .inProgress => 1
  | .notRequired => 2
  | .completed => 2

/-- The resource still has to be migrated or is being migrated. -/
def isPending : MigrationStatus → Bool
  | .required => true
  | .inProgress => true
  | .notRequired => false
  | .completed => false

theorem rank_le_two (status : MigrationStatus) : status.rank ≤ 2 := by
  cases status <;> decide

/-- What is pending ranks below what is settled. -/
theorem isPending_iff {status : MigrationStatus} : status.isPending = true ↔ status.rank < 2 := by
  cases status <;> decide

/-- A status is settled when no migration is needed or it is over. -/
theorem isPending_eq_false_iff {status : MigrationStatus} :
    status.isPending = false ↔ status = .notRequired ∨ status = .completed := by
  cases status <;> decide

end MigrationStatus

end RestartCheck
