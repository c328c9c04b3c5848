import RestartCheck.Effect.Action

/-!
# Triggering migrations

A migration command converts what is not current and answers with the number of items converted.  A
resource that is current already has nothing to convert, which is a success, so commands can be
repeated.

**Results.**
* `workCount_eq_ok_iff`: which answers count as proof of the work done.
-/

namespace RestartCheck

inductive MigrationOutcome
  | performed (count : Nat)
  | alreadyCurrent
deriving DecidableEq, Repr

namespace MigrationOutcome

/-- An outcome inside a message. -/
def literal : MigrationOutcome → String
  | .performed count => "PerformedWork(count=" ++ toString count ++ ")"
  | .alreadyCurrent => "NoOpAlreadyCurrent()"

/-- The outcome of converting a number of items. -/
def ofCount : Nat → MigrationOutcome
  | 0 => .alreadyCurrent
  | count + 1 => .performed (count + 1)

end MigrationOutcome

namespace Migration

/-- The number of items that a decoded answer reports as converted. -/
def workCount? (body : Json.Members) : Option Nat :=
  match OrderedMap.lookup body "total" with
  | some (.int total) => if 0 ≤ total then some total.toNat else none
  | _ => none

/-- The service gave up on the command. -/
def gaveUp (body : Json.Members) : Bool :=
  match OrderedMap.lookup body "timed_out" with
  | some (.bool true) => true
  | _ => false

/-- The number of items converted according to an answer. -/
def workCount (ref : ResourceRef) (response : Response) : Except Failure Nat :=
  let failed (what : String) (body : Json) : Except Failure Nat :=
    .error (.migrationFailed ("migration of " ++ ref.text ++ what) (some response.status) body)
  if !response.ok then
    failed (" failed with status " ++ toString response.status) (.string response.body)
  else
    match response.object with
    | .error (.fatal _ _) => failed " returned a malformed body" (.string response.body)
    | .error failure => .error failure
    | .ok body =>
      if gaveUp body then failed " timed out" (.object body)
      else
        match workCount? body with
        | none => failed " returned no work count" (.object body)
        | some total => .ok total

/-- Run the migration command for a resource. -/
def migrate (path : String) (ref : ResourceRef) : Action MigrationOutcome := do
  let response ← Action.call
    { method := "POST", path := path ++ "/" ++ ref.name
      params := some [("error_trace", .string "true")] }
  let total ← workCount ref response
  if total = 0 then
    Action.note .info "migration_noop" [("resource", .json (.string ref.text))]
  else
    Action.note .info "migration_performed"
      [("resource", .json (.string ref.text)), ("total", .json (.int total))]
  return MigrationOutcome.ofCount total

/-- The work is counted when the request succeeded and the answer has a count and does not give up.
-/
theorem workCount_eq_ok_iff {ref : ResourceRef} {response : Response} {total : Nat} :
    workCount ref response = .ok total ↔
      response.ok = true ∧ ∃ body, response.object = .ok body ∧ gaveUp body = false ∧
        workCount? body = some total := by
  by_cases hok : response.ok = true
  · simp only [workCount, hok, Bool.not_true, Bool.false_eq_true, if_false, true_and]
    cases hobj : response.object with
    | error failure => cases failure <;> simp
    | ok body =>
      by_cases hup : gaveUp body = true
      · simp [hup]
      · cases hcount : workCount? body <;> simp [hup, hcount]
  · simp [workCount, hok]

end Migration

end RestartCheck
