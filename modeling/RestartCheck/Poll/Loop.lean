import RestartCheck.Failure

/-!
# The poll loop

A poll repeats an attempt until its outcome is final or the time is used up.  The loop is written
over any monad and any type of times, so that it can be studied over exact time and run over
doubles.

**Algorithm.**  After each attempt whose outcome is transient the elapsed time is read.  Once it has
reached the timeout the poll ends; otherwise the loop sleeps for the interval or for the time left,
whichever is less.  The budget is therefore only declared exhausted after an attempt that ended at
or after its end.  Being unreachable is transient.
-/

namespace RestartCheck

inductive PollEnd (α : Type)
  | converged (value : α) (attempts : Nat)
  | fatal (reason : String) (details : Json) (attempts : Nat)
  | stray (value : Observed)
  | failed (failure : Failure)
  | expired (seen : Observed) (attempts : Nat)
  | unreached (cause : String) (attempts : Nat)

/-- What one attempt means for the poll. -/
inductive Verdict (α : Type)
  /-- The poll ends; the number of attempts is filled in. -/
  | final (ending : Nat → PollEnd α)
  /-- The poll goes on.  If time is up it ends as given for the number of attempts. -/
  | transient (seen : Observed) (ending : Nat → PollEnd α)

namespace Verdict

variable {α : Type}

/-- Judge the result of one attempt. -/
def ofAttempt : Except Failure (PollOutcome α) → Verdict α
  | .ok (.converged value) => .final (.converged value)
  | .ok (.fatal reason details) => .final (.fatal reason details)
  | .ok (.stray value) => .final fun _ => .stray value
  | .ok (.pending seen) => .transient seen (.expired seen)
  | .error (.unreachable cause) => .transient (.json (.string cause)) (.unreached cause)
  | .error failure => .final fun _ => .failed failure

end Verdict

/-- How a poll reads the clock, sleeps, and tells that it goes on. -/
structure Clockwork (m : Type → Type) (τ : Type) where
  now : m τ
  sleep : τ → m Unit
  waiting : (attempts : Nat) → (seen : Observed) → m Unit

/-- How often and how long a poll looks. -/
structure Pace (τ : Type) where
  interval : τ
  timeout : τ

/-- The time to sleep after an attempt: the interval, or the time left when that is less. -/
def Pace.pause {τ : Type} [Sub τ] [LT τ] [DecidableLT τ] (pace : Pace τ) (elapsed : τ) : τ :=
  if pace.timeout - elapsed < pace.interval then pace.timeout - elapsed else pace.interval

section Loop

variable {m : Type → Type} [Monad m] {τ : Type} [Sub τ] [LT τ] [DecidableLT τ] [LE τ]
  [DecidableLE τ] {α : Type}

/-- Make up to `patience` further attempts.  There is no ending when these do not suffice. -/
def pollFrom (clockwork : Clockwork m τ) (attempt : m (Except Failure (PollOutcome α)))
    (pace : Pace τ) (start : τ) : (patience attempts : Nat) → m (Option (PollEnd α))
  | 0, _ => pure none
  | patience + 1, attempts => do
    match Verdict.ofAttempt (← attempt) with
    | .final ending => pure (some (ending (attempts + 1)))
    | .transient seen ending =>
      let elapsed := (← clockwork.now) - start
      if pace.timeout ≤ elapsed then pure (some (ending (attempts + 1)))
      else
        clockwork.waiting (attempts + 1) seen
        clockwork.sleep (pace.pause elapsed)
        pollFrom clockwork attempt pace start patience (attempts + 1)

/-- Poll from the time now. -/
def pollLoop (clockwork : Clockwork m τ) (attempt : m (Except Failure (PollOutcome α)))
    (pace : Pace τ) (patience : Nat) : m (Option (PollEnd α)) := do
  let start ← clockwork.now
  pollFrom clockwork attempt pace start patience 0

end Loop

end RestartCheck
