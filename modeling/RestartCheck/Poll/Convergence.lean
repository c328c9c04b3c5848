import RestartCheck.Effect.Action
import RestartCheck.Poll.Loop

/-!
# Waiting for convergence

The poll loop run as an action on the session's clock.  The interval and the timeout are given anew
at every place that polls, together with a description for logs and messages.

What an attempt observed is logged and goes into messages.  It can be anything that the service has
answered, and when it cannot be written or told, that defect is what the poll comes to.

**Results.**
* `PollEnd.toExcept_converged`: converging is the only ending that succeeds.
-/

namespace RestartCheck

/-- A failure whose message tells what was observed, or the defect of telling it. -/
def Failure.telling (seen : Observed) (failure : String → Failure) : Failure :=
  match seen.told with
  | .ok text => failure text
  | .error obstacle => .defect (.ofObstacle obstacle)

namespace PollEnd

variable {α : Type}

def toExcept (description : String) (timeout : Float) : PollEnd α → Except Failure α
  | .converged value _ => .ok value
  | .fatal reason details _ => .error (.fatal (description ++ ": " ++ reason) details)
  | .stray value =>
    .error (.telling value fun text =>
      .fatal (description ++ ": predicate returned " ++ text) .null)
  | .failed failure => .error failure
  | .unreached cause _ =>
    .error (.unreachable (description ++ ": service still unreachable after "
      ++ Decimal.floatText timeout ++ "s: " ++ cause))
  | .expired seen attempts =>
    .error (.telling seen fun text =>
      .timedOut (description ++ " did not converge within " ++ Decimal.floatText timeout
        ++ "s (last observed: " ++ text ++ ")") seen attempts)

/-- Log the end of a poll that ran out of time. -/
def noteTimedOut (description : String) (timeout : Float) (attempts : Nat) (seen : Observed) :
    Action Unit :=
  Action.noteShowing .warning "poll_timed_out"
    [("condition", .json (.string description)), ("attempts", .json (.int attempts)),
     ("timeout", .json (.float timeout))]
    "observed" seen

/-- Log how a poll ended. -/
def note (description : String) (timeout : Float) : PollEnd α → Action Unit
  | .converged _ attempts =>
    Action.note .debug "poll_converged"
      [("condition", .json (.string description)), ("attempts", .json (.int attempts))]
  | .fatal reason _ attempts =>
    Action.note .warning "poll_fatal"
      [("condition", .json (.string description)), ("attempts", .json (.int attempts)),
       ("reason", .json (.string reason))]
  | .expired seen attempts => noteTimedOut description timeout attempts seen
  | .unreached cause attempts =>
    noteTimedOut description timeout attempts (.json (.string cause))
  | .stray _ => pure ()
  | .failed _ => pure ()

/-- Converging is the only ending that succeeds. -/
theorem toExcept_converged {description : String} {timeout : Float} {ending : PollEnd α}
    {value : α} (h : ending.toExcept description timeout = .ok value) :
    ∃ attempts, ending = .converged value attempts := by
  cases ending with
  | converged v attempts => cases h; exact ⟨attempts, rfl⟩
  | fatal reason details attempts => cases h
  | stray v => cases h
  | failed failure => cases h
  | expired seen attempts => cases h
  | unreached cause attempts => cases h

end PollEnd

/-- The clock of the session; going on with a poll is logged. -/
def sessionClockwork (description : String) :
    Clockwork (ExceptT Failure (StateT Session Procedure)) Float where
  now := Action.query .now
  sleep seconds := Action.query (.sleep seconds)
  waiting attempts seen :=
    Action.noteShowing .debug "poll_not_converged"
      [("condition", .json (.string description)), ("attempt", .json (.int attempts))]
      "observed" seen

/-- More attempts than any budget has room for. -/
def amplePatience : Nat := 1000000000000

/-- Repeat an attempt until it converges.  At most `patience` attempts are made; when they do not
suffice the action has no result. -/
def awaitConvergence {α : Type} (patience : Nat) (attempt : Action (PollOutcome α))
    (interval timeout : Float) (description : String := "condition") : Action α := do
  if interval ≤ 0.0 ∨ timeout ≤ 0.0 then
    Action.fail (.defect (.badValue "interval and timeout must be positive"))
  let ending ← pollLoop (sessionClockwork description) (Action.attempt attempt)
    ⟨interval, timeout⟩ patience
  match ending with
  | none => Action.stuck
  | some ending => do
    ending.note description timeout
    Action.ofExcept (ending.toExcept description timeout)

end RestartCheck
