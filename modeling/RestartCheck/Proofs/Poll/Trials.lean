import RestartCheck.Poll.Convergence
import RestartCheck.Proofs.Effect.Runs
import RestartCheck.Proofs.Effect.Trace

/-!
# The trials of a poll

A poll is a series of trials.  A trial is one run of the attempt together with the clock reading
after it.  It is *decisive* when its outcome is final, or when the time since the start of the poll
has reached the timeout, or when what it has seen cannot be logged.

**Algorithm.**  Every trial but the last is not decisive and is followed by one sleep; the last is
decisive, and the end of the poll depends on it alone.

**Results.**
* `runs_pollFrom_succ_iff`: what one turn of the loop does.
* `runs_pollFrom_iff`: the runs of the loop, by induction on the number of attempts granted.
* `runs_awaitConvergence_iff`: the runs of a whole poll, which its first decisive trial ends.
-/

namespace RestartCheck
namespace Poll

open RestartCheck.Action

variable {α : Type}

/-! ## Outcomes -/

/-- The outcome leaves the poll waiting: it is pending, or the service was out of reach. -/
def isTransient : Except Failure (PollOutcome α) → Bool
  | .ok (.pending _) => true
  | .error (.unreachable _) => true
  | _ => false

/-- What an outcome that leaves the poll waiting lets see. -/
def seenIn : Except Failure (PollOutcome α) → Observed
  | .ok (.pending seen) => seen
  | .error (.unreachable cause) => .json (.string cause)
  | _ => .json .null

/-- How a poll ends after a number of attempts, given the outcome of the last of them. -/
def endingOf
    (outcome : Except Failure (PollOutcome α))
    (attempts : Nat) : PollEnd α :=
  match Verdict.ofAttempt outcome with
  | .final ending => ending attempts
  | .transient _ ending => ending attempts

/-- A verdict is transient exactly for the outcomes that leave the poll waiting. -/
theorem ofAttempt_eq
    (outcome : Except Failure (PollOutcome α)) :
    Verdict.ofAttempt outcome =
      if isTransient outcome then .transient (seenIn outcome) (endingOf outcome)
      else .final (endingOf outcome) := by
  cases outcome with
  | ok answer =>
      cases answer with
      | converged value => rfl
      | pending seen => rfl
      | fatal reason details => rfl
      | stray value => rfl
  | error failure =>
      cases failure with
      | unreachable cause => rfl
      | unspecific message => rfl
      | configuration message => rfl
      | fatal message details => rfl
      | unavailable message details => rfl
      | unsupported message capability version => rfl
      | migrationFailed message status body => rfl
      | timedOut message last attempts => rfl
      | assertion message => rfl
      | continuity message => rfl
      | defect cause => rfl

/-- What keeps the end of a poll from being logged. -/
def endObstacle?
    (session : Session) :
    PollEnd α → Option Json.Obstacle
  | .expired seen _ => session.obstacle? .warning seen
  | _ => none

/-- An outcome is transient or final. -/
theorem outcome_cases
    (outcome : Except Failure (PollOutcome α)) :
    (∃ seen, outcome = .ok (.pending seen)) ∨
      (∃ cause, outcome = .error (.unreachable cause)) ∨
      (isTransient outcome = false ∧ seenIn outcome = .json .null ∧
        ∀ session attempts, endObstacle? session (endingOf outcome attempts) = none) := by
  cases outcome with
  | ok answer =>
      cases answer with
      | pending seen => exact Or.inl ⟨seen, rfl⟩
      | _ => exact Or.inr (Or.inr ⟨rfl, rfl, fun _ _ => rfl⟩)
  | error failure =>
      cases failure with
      | unreachable cause => exact Or.inr (Or.inl ⟨cause, rfl⟩)
      | _ => exact Or.inr (Or.inr ⟨rfl, rfl, fun _ _ => rfl⟩)

/-! ## Trials -/

/-- The interval, or the time that is left when that is less. -/
def lesserOf (interval left : Float) : Float :=
  if left < interval then left else interval

/-- One run of the attempt of a poll, and the clock reading after it.  The clock is only read when
the outcome leaves the poll waiting. -/
structure Trial (α : Type) where
  events : List Event
  outcome : Except Failure (PollOutcome α)
  after : Session
  reading : Float

namespace Trial

/-- The time since the start of the poll. -/
def elapsed
    (trial : Trial α)
    (start : Float) : Float :=
  trial.reading - start

/-- What keeps that from being logged which the trial has seen: as a warning when the time is used
up, and otherwise at the lowest level. -/
def refusal?
    (trial : Trial α)
    (timeout start : Float) : Option Json.Obstacle :=
  trial.after.obstacle? (if timeout ≤ trial.elapsed start then .warning else .debug)
    (seenIn trial.outcome)

/-- The poll ends with this trial. -/
def IsDecisive
    (trial : Trial α)
    (timeout start : Float) : Prop :=
  isTransient trial.outcome = false ∨ timeout ≤ trial.elapsed start ∨
    trial.refusal? timeout start ≠ none

def lastEvents
    (trial : Trial α) : List Event :=
  trial.events ++ if isTransient trial.outcome then [⟨.now, trial.reading⟩] else []

/-- The events of the trial of the given number when the poll goes on after it: the attempt, the
clock reading, a log entry and one sleep.  The sleep lasts for the interval, or for the time that is
left when that is less. -/
def earlierEvents
    (trial : Trial α)
    (interval timeout : Float)
    (description : String)
    (start : Float)
    (number : Nat) : List Event :=
  trial.events ++
    [⟨.now, trial.reading⟩,
     noted trial.after .debug "poll_not_converged"
      [("condition", .json (.string description)), ("attempt", .json (.int number)),
       ("observed", seenIn trial.outcome)],
     ⟨.sleep (lesserOf interval (timeout - trial.elapsed start)), ()⟩]

/-- An outcome that is final leaves nothing to log. -/
theorem refusal?_of_final
    {trial : Trial α}
    (hfinal : isTransient trial.outcome = false)
    (timeout start : Float) :
    trial.refusal? timeout start = none := by
  rcases outcome_cases trial.outcome with ⟨seen, hseen⟩ | ⟨cause, hcause⟩ | ⟨_, hseen, _⟩
  · rw [hseen] at hfinal
    cases hfinal
  · rw [hcause] at hfinal
    cases hfinal
  · rw [refusal?, hseen, Session.obstacle?_null]

end Trial

/-- The attempt is run once for every trial, each time from the memory that the one before left. -/
def Consecutive
    (attempt : Action (PollOutcome α)) :
    Session → List (Trial α) → Session → Prop
  | before, [], after => after = before
  | before, trial :: rest, after =>
      attempt.Runs before trial.events trial.outcome trial.after ∧
      Consecutive attempt trial.after rest after

theorem Consecutive.after_last
    {attempt : Action (PollOutcome α)} {before after : Session} {earlier : List (Trial α)}
    {last : Trial α}
    (hconsecutive : Consecutive attempt before (earlier ++ [last]) after) :
    last.after = after := by
  induction earlier generalizing before with
  | nil => exact hconsecutive.2.symm
  | cons first rest ih => exact ih hconsecutive.2

/-- The events of the trials after which the poll goes on, the first having the given number. -/
def earlierEvents
    (interval timeout : Float)
    (description : String)
    (start : Float) :
    Nat → List (Trial α) → List Event
  | _, [] => []
  | number, trial :: rest =>
      trial.earlierEvents interval timeout description start number ++
        earlierEvents interval timeout description start (number + 1) rest

/-! ## The loop -/

section Loop

variable {attempt : Action (PollOutcome α)} {interval timeout : Float} {description : String}
  {start : Float} {before after : Session} {events : List Event}

/-- A loop that goes on after a trial tells what it has seen and sleeps, unless that cannot be
told. -/
theorem runs_waiting_iff
    {number : Nat} {seen : Observed} {pause : Float}
    {next : Action (Option (PollEnd α))} {result : Except Failure (Option (PollEnd α))} :
    Action.Runs (do
        (sessionClockwork description).waiting number seen
        (sessionClockwork description).sleep pause
        next) before events result after ↔
      (before.obstacle? .debug seen = none ∧
        ∃ rest,
          events =
            noted before .debug "poll_not_converged"
              [("condition", .json (.string description)), ("attempt", .json (.int number)),
               ("observed", seen)] :: ⟨.sleep pause, ()⟩ :: rest ∧
          next.Runs before rest result after)
      ∨
      (∃ obstacle,
        before.obstacle? .debug seen = some obstacle ∧
        events = [] ∧ result = .error (.defect (.ofObstacle obstacle)) ∧ after = before) := by
  change Action.Runs (noteShowing .debug "poll_not_converged" _ "observed" seen >>= fun _ =>
    query (.sleep pause) >>= fun _ => next) before events result after ↔ _
  rw [runs_noteShowing_bind_iff]
  refine or_congr_left (and_congr_right fun _ => ?_)
  constructor
  · rintro ⟨rest, rfl, hrest⟩
    obtain ⟨_, tail, rfl, hnext⟩ := runs_query_bind_iff.mp hrest
    exact ⟨tail, rfl, hnext⟩
  · rintro ⟨rest, rfl, hnext⟩
    exact ⟨_, rfl, runs_query_bind_iff.mpr ⟨(), rest, rfl, hnext⟩⟩

/-- What the loop does with the outcome of an attempt. -/
def judge
    (next : Action (Option (PollEnd α)))
    (description : String)
    (interval timeout : Float)
    (start : Float)
    (number : Nat)
    (outcome : Except Failure (PollOutcome α)) : Action (Option (PollEnd α)) :=
  match Verdict.ofAttempt outcome with
  | .final ending => pure (some (ending number))
  | .transient seen ending => do
    let elapsed := (← (sessionClockwork description).now) - start
    if timeout ≤ elapsed then pure (some (ending number))
    else
      (sessionClockwork description).waiting number seen
      (sessionClockwork description).sleep (lesserOf interval (timeout - elapsed))
      next

theorem runs_judge_of_final
    {next : Action (Option (PollEnd α))} {number : Nat}
    {outcome : Except Failure (PollOutcome α)}
    {result : Except Failure (Option (PollEnd α))}
    (hfinal : isTransient outcome = false) :
    (judge next description interval timeout start number outcome).Runs before events result
        after ↔
      events = [] ∧ result = .ok (some (endingOf outcome number)) ∧ after = before := by
  have hverdict : Verdict.ofAttempt outcome = .final (endingOf outcome) := by
    rw [ofAttempt_eq, hfinal]
    rfl
  unfold judge
  rw [hverdict]
  exact runs_pure_iff

theorem runs_judge_of_transient
    {next : Action (Option (PollEnd α))} {number : Nat}
    {outcome : Except Failure (PollOutcome α)}
    {result : Except Failure (Option (PollEnd α))}
    (htransient : isTransient outcome = true) :
    (judge next description interval timeout start number outcome).Runs before events result
        after ↔
      ∃ reading rest,
        events = ⟨.now, reading⟩ :: rest ∧
        ((timeout ≤ reading - start ∧ rest = [] ∧
            result = .ok (some (endingOf outcome number)) ∧ after = before)
          ∨
          (¬timeout ≤ reading - start ∧
            ((before.obstacle? .debug (seenIn outcome) = none ∧
              ∃ tail,
                rest =
                  noted before .debug "poll_not_converged"
                    [("condition", .json (.string description)), ("attempt", .json (.int number)),
                     ("observed", seenIn outcome)]
                    :: ⟨.sleep (lesserOf interval (timeout - (reading - start))), ()⟩ :: tail ∧
                next.Runs before tail result after)
            ∨
            (∃ obstacle,
              before.obstacle? .debug (seenIn outcome) = some obstacle ∧
              rest = [] ∧ result = .error (.defect (.ofObstacle obstacle)) ∧
              after = before)))) := by
  have hverdict :
      Verdict.ofAttempt outcome = .transient (seenIn outcome) (endingOf outcome) := by
    rw [ofAttempt_eq, htransient]
    rfl
  unfold judge
  rw [hverdict]
  change Action.Runs (query .now >>= fun reading =>
    if timeout ≤ reading - start then pure (some (endingOf outcome number))
    else do
      (sessionClockwork description).waiting number (seenIn outcome)
      (sessionClockwork description).sleep (lesserOf interval (timeout - (reading - start)))
      next) before events result after ↔ _
  rw [runs_query_bind_iff]
  refine exists_congr fun reading => exists_congr fun rest => and_congr_right fun _ => ?_
  by_cases hspent : timeout ≤ reading - start
  · rw [if_pos hspent, runs_pure_iff]
    simp [hspent]
  · rw [if_neg hspent, runs_waiting_iff]
    simp [hspent]

/-- What the loop hands over after a decisive trial: the ending, unless there is time left and what
the trial has seen cannot be logged. -/
def loopResult
    (trial : Trial α)
    (timeout start : Float)
    (number : Nat) : Except Failure (Option (PollEnd α)) :=
  if timeout ≤ trial.elapsed start then .ok (some (endingOf trial.outcome number))
  else
    match trial.refusal? timeout start with
    | some obstacle => .error (.defect (.ofObstacle obstacle))
    | none => .ok (some (endingOf trial.outcome number))

theorem loopResult_ne_none
    {trial : Trial α} {number : Nat} :
    loopResult trial timeout start number ≠ .ok none := by
  unfold loopResult
  split
  · simp
  · split <;> simp

theorem loopResult_of_final
    {trial : Trial α}
    (hfinal : isTransient trial.outcome = false)
    (timeout start : Float)
    (number : Nat) :
    loopResult trial timeout start number = .ok (some (endingOf trial.outcome number)) := by
  unfold loopResult
  rw [Trial.refusal?_of_final hfinal]
  split
  · rfl
  · rfl

/-- One turn of the loop: a trial, after which the poll has ended or goes on. -/
theorem runs_pollFrom_succ_iff
    {patience made : Nat} {result : Except Failure (Option (PollEnd α))} :
    Action.Runs (pollFrom (sessionClockwork description) (Action.attempt attempt)
        ⟨interval, timeout⟩ start (patience + 1) made) before events result after ↔
      ∃ trial : Trial α,
        attempt.Runs before trial.events trial.outcome trial.after ∧
        ((trial.IsDecisive timeout start ∧
            events = trial.lastEvents ∧
            result = loopResult trial timeout start (made + 1) ∧
            after = trial.after)
          ∨
          (¬trial.IsDecisive timeout start ∧
            ∃ rest,
              events = trial.earlierEvents interval timeout description start (made + 1) ++ rest ∧
              Action.Runs (pollFrom (sessionClockwork description) (Action.attempt attempt)
                ⟨interval, timeout⟩ start patience (made + 1)) trial.after rest result after)) := by
  change Action.Runs (Action.attempt attempt >>= judge
    (pollFrom (sessionClockwork description) (Action.attempt attempt) ⟨interval, timeout⟩ start
      patience (made + 1)) description interval timeout start (made + 1)) before events result
      after ↔ _
  rw [runs_attempt_bind_iff]
  constructor
  · rintro ⟨outcome, middle, front, back, rfl, hattempt, hrest⟩
    cases htransient : isTransient outcome with
    | false =>
        obtain ⟨rfl, rfl, rfl⟩ := (runs_judge_of_final htransient).mp hrest
        let trial : Trial α := ⟨front, outcome, after, 0⟩
        have hresult := loopResult_of_final (show isTransient trial.outcome = false from htransient)
          timeout start (made + 1)
        refine ⟨trial, hattempt, Or.inl ⟨Or.inl htransient, ?_, hresult.symm, rfl⟩⟩
        simp [trial, Trial.lastEvents, htransient]
    | true =>
        obtain ⟨reading, rest, rfl, hend⟩ := (runs_judge_of_transient htransient).mp hrest
        refine ⟨⟨front, outcome, middle, reading⟩, hattempt, ?_⟩
        rcases hend with ⟨hspent, rfl, rfl, rfl⟩ | ⟨hleft, ⟨htold, tail, rfl, htail⟩ |
          ⟨obstacle, hrefused, rfl, rfl, rfl⟩⟩
        · refine Or.inl ⟨Or.inr (Or.inl hspent), ?_, (if_pos hspent).symm, rfl⟩
          simp [Trial.lastEvents, htransient]
        · refine Or.inr ⟨?_, tail, ?_, htail⟩
          · simpa [Trial.IsDecisive, Trial.elapsed, Trial.refusal?, htransient, hleft] using htold
          · simp [Trial.earlierEvents, Trial.elapsed]
        · refine Or.inl ⟨Or.inr (Or.inr ?_), ?_, ?_, rfl⟩
          · simp [Trial.refusal?, Trial.elapsed, hleft, hrefused]
          · simp [Trial.lastEvents, htransient]
          · simp [loopResult, Trial.refusal?, Trial.elapsed, hleft, hrefused]
  · rintro ⟨trial, hattempt, ⟨hdecisive, rfl, rfl, rfl⟩ | ⟨hgoing, rest, rfl, hrest⟩⟩
    · refine ⟨trial.outcome, trial.after, trial.events, _, rfl, hattempt, ?_⟩
      cases htransient : isTransient trial.outcome with
      | false =>
          exact (runs_judge_of_final htransient).mpr
            ⟨by simp, loopResult_of_final htransient _ _ _, rfl⟩
      | true =>
          refine (runs_judge_of_transient htransient).mpr ⟨trial.reading, [], by simp, ?_⟩
          by_cases hspent : timeout ≤ trial.elapsed start
          · exact Or.inl ⟨hspent, rfl, if_pos hspent, rfl⟩
          · have hrefused : trial.refusal? timeout start ≠ none := by
              simpa [Trial.IsDecisive, htransient, hspent] using hdecisive
            obtain ⟨obstacle, hobstacle⟩ := Option.ne_none_iff_exists'.mp hrefused
            refine Or.inr ⟨hspent, Or.inr ⟨obstacle, ?_, rfl, ?_, rfl⟩⟩
            · simpa [Trial.refusal?, hspent] using hobstacle
            · simp [loopResult, hspent, hobstacle]
    · obtain ⟨hfinal, hleft, htold⟩ : ¬isTransient trial.outcome = false ∧
          ¬timeout ≤ trial.elapsed start ∧ trial.refusal? timeout start = none := by
        simpa [Trial.IsDecisive] using hgoing
      have htransient : isTransient trial.outcome = true := by simpa using hfinal
      refine ⟨trial.outcome, trial.after, trial.events, _,
        List.append_assoc _ _ _, hattempt, ?_⟩
      refine (runs_judge_of_transient htransient).mpr
        ⟨trial.reading, _, rfl, Or.inr ⟨hleft, Or.inl ⟨?_, rest, rfl, hrest⟩⟩⟩
      simpa [Trial.refusal?, hleft] using htold

/-- The runs of the loop that end a poll: trials that are not decisive, and then a decisive one. -/
theorem runs_pollFrom_iff
    {patience made : Nat} {result : Except Failure (Option (PollEnd α))}
    (hends : result ≠ .ok none) :
    Action.Runs (pollFrom (sessionClockwork description) (Action.attempt attempt)
        ⟨interval, timeout⟩ start patience made) before events result after ↔
      ∃ (earlier : List (Trial α)) (last : Trial α),
        earlier.length < patience ∧
        Consecutive attempt before (earlier ++ [last]) after ∧
        (∀ trial ∈ earlier, ¬trial.IsDecisive timeout start) ∧
        last.IsDecisive timeout start ∧
        events = earlierEvents interval timeout description start (made + 1) earlier
          ++ last.lastEvents ∧
        result = loopResult last timeout start (made + earlier.length + 1) := by
  -- The trials are found from the front, so the memory and the number made so far vary.
  induction patience generalizing before events made with
  | zero =>
      constructor
      · intro hrun
        obtain ⟨_, hresult, _⟩ := runs_pure_iff.mp hrun
        exact absurd hresult hends
      · rintro ⟨earlier, last, hlength, _⟩
        exact absurd hlength (Nat.not_lt_zero _)
  | succ patience ih =>
      rw [runs_pollFrom_succ_iff]
      constructor
      · rintro ⟨trial, hattempt, ⟨hdecisive, rfl, rfl, rfl⟩ | ⟨hgoing, rest, rfl, hrest⟩⟩
        · exact ⟨[], trial, Nat.succ_pos _, ⟨hattempt, rfl⟩, by simp, hdecisive, rfl, rfl⟩
        · obtain ⟨earlier, last, hlength, hconsecutive, hearlier, hlast, rfl, rfl⟩ :=
            ih.mp hrest
          refine ⟨trial :: earlier, last, Nat.succ_lt_succ hlength, ⟨hattempt, hconsecutive⟩,
            ?_, hlast, ?_, ?_⟩
          · intro other hother
            rcases List.mem_cons.mp hother with rfl | hother
            · exact hgoing
            · exact hearlier other hother
          · simp [Poll.earlierEvents]
          · rw [List.length_cons]
            congr 1
            omega
      · rintro ⟨earlier, last, hlength, hconsecutive, hearlier, hlast, rfl, rfl⟩
        cases earlier with
        | nil =>
            obtain ⟨hattempt, rfl⟩ := hconsecutive
            exact ⟨last, hattempt, Or.inl ⟨hlast, rfl, rfl, rfl⟩⟩
        | cons trial earlier =>
            obtain ⟨hattempt, hconsecutive⟩ := hconsecutive
            refine ⟨trial, hattempt, Or.inr
              ⟨hearlier trial List.mem_cons_self, _, List.append_assoc _ _ _, ?_⟩⟩
            refine ih.mpr ⟨earlier, last, Nat.lt_of_succ_lt_succ hlength, hconsecutive,
              fun other hother => hearlier other (List.mem_cons_of_mem _ hother), hlast, rfl, ?_⟩
            rw [List.length_cons]
            congr 1
            omega

end Loop

/-! ## The whole poll -/

section Whole

variable {attempt : Action (PollOutcome α)} {interval timeout : Float} {description : String}
  {before after : Session} {events : List Event}

/-- The log entry at the end of a poll, if the ending gives rise to one. -/
def closingNote
    (session : Session)
    (description : String)
    (timeout : Float) :
    PollEnd α → List Event
  | .converged _ attempts =>
      [noted session .debug "poll_converged"
        [("condition", .json (.string description)), ("attempts", .json (.int attempts))]]
  | .fatal reason _ attempts =>
      [noted session .warning "poll_fatal"
        [("condition", .json (.string description)), ("attempts", .json (.int attempts)),
         ("reason", .json (.string reason))]]
  | .expired seen attempts =>
      [noted session .warning "poll_timed_out"
        [("condition", .json (.string description)), ("attempts", .json (.int attempts)),
         ("timeout", .json (.float timeout)), ("observed", seen)]]
  | .unreached cause attempts =>
      [noted session .warning "poll_timed_out"
        [("condition", .json (.string description)), ("attempts", .json (.int attempts)),
         ("timeout", .json (.float timeout)), ("observed", .json (.string cause))]]
  | .stray _ => []
  | .failed _ => []

/-- An end of a poll that can be logged. -/
theorem runs_tell_iff
    {ending : PollEnd α} {result : Except Failure α}
    (htold : endObstacle? before ending = none) :
    Action.Runs (do
        ending.note description timeout
        Action.ofExcept (ending.toExcept description timeout)) before events result after ↔
      events = closingNote before description timeout ending ∧
      result = ending.toExcept description timeout ∧
      after = before := by
  have hnote : ∀ {front : List Event} {outcome : Except Failure Unit} {middle : Session},
      (ending.note description timeout).Runs before front outcome middle ↔
        front = closingNote before description timeout ending ∧ outcome = .ok () ∧
        middle = before := by
    intro front outcome middle
    cases ending with
    | converged value attempts => exact runs_note_iff
    | fatal reason details attempts => exact runs_note_iff
    | stray value => exact runs_pure_iff
    | failed failure => exact runs_pure_iff
    | expired seen attempts =>
        rw [endObstacle?] at htold
        simp [PollEnd.note, PollEnd.noteTimedOut, runs_noteShowing_iff, htold, closingNote]
    | unreached cause attempts =>
        simp [PollEnd.note, PollEnd.noteTimedOut, runs_noteShowing_iff, closingNote]
  rw [runs_bind_iff]
  simp only [hnote, runs_ofExcept_iff]
  constructor
  · rintro (⟨_, middle, front, back, rfl, ⟨rfl, _, rfl⟩, rfl, rfl, rfl⟩ | ⟨_, _, _, h, _⟩)
    · exact ⟨List.append_nil _, rfl, rfl⟩
    · cases h
  · rintro ⟨rfl, rfl, rfl⟩
    exact Or.inl ⟨(), _, _, [], (List.append_nil _).symm, ⟨rfl, trivial, rfl⟩, rfl, rfl, rfl⟩

/-- An end of a poll that cannot be logged. -/
theorem runs_tell_of_refused
    {ending : PollEnd α} {result : Except Failure α} {obstacle : Json.Obstacle}
    (hrefused : endObstacle? before ending = some obstacle) :
    Action.Runs (do
        ending.note description timeout
        Action.ofExcept (ending.toExcept description timeout)) before events result after ↔
      events = [] ∧ result = .error (.defect (.ofObstacle obstacle)) ∧ after = before := by
  cases ending with
  | expired seen attempts =>
      rw [endObstacle?] at hrefused
      change Action.Runs (noteShowing .warning "poll_timed_out" _ "observed" seen >>= fun _ => _)
        before events result after ↔ _
      rw [runs_noteShowing_bind_iff]
      simp [hrefused]
  | _ => cases hrefused

/-- The interval or the timeout is not positive. -/
def IsUnusable
    (interval timeout : Float) : Prop :=
  interval ≤ 0.0 ∨ timeout ≤ 0.0

instance (interval timeout : Float) : Decidable (IsUnusable interval timeout) :=
  inferInstanceAs (Decidable (_ ∨ _))

/-- The failure of a poll whose interval or timeout is not positive. -/
def unusable : Failure :=
  .defect (.badValue "interval and timeout must be positive")

theorem runs_awaitConvergence_of_unusable
    {patience : Nat} {result : Except Failure α}
    (hunusable : IsUnusable interval timeout) :
    (awaitConvergence patience attempt interval timeout description).Runs before events result
        after ↔
      events = [] ∧ result = .error unusable ∧ after = before := by
  have hcheck : interval ≤ 0.0 ∨ timeout ≤ 0.0 := hunusable
  unfold awaitConvergence
  simp only
  rw [if_pos hcheck]
  exact runs_fail_bind_iff

/-- What an outcome comes to after a number of attempts, when nothing keeps it from being logged. -/
def decided
    (description : String)
    (timeout : Float)
    (attempts : Nat) :
    Except Failure (PollOutcome α) → Except Failure α
  | .ok (.converged value) => .ok value
  | .ok (.fatal reason details) => .error (.fatal (description ++ ": " ++ reason) details)
  | .ok (.stray value) =>
      .error (.telling value fun text =>
        .fatal (description ++ ": predicate returned " ++ text) .null)
  | .ok (.pending seen) =>
      .error (.telling seen fun text =>
        .timedOut (description ++ " did not converge within " ++ Decimal.floatText timeout
          ++ "s (last observed: " ++ text ++ ")") seen attempts)
  | .error (.unreachable cause) =>
      .error (.unreachable (description ++ ": service still unreachable after "
        ++ Decimal.floatText timeout ++ "s: " ++ cause))
  | .error failure => .error failure

theorem toExcept_endingOf
    (outcome : Except Failure (PollOutcome α))
    (attempts : Nat) :
    (endingOf outcome attempts).toExcept description timeout =
      decided description timeout attempts outcome := by
  cases outcome with
  | ok answer => cases answer <;> rfl
  | error failure => cases failure <;> rfl

namespace Trial

/-- What a poll comes to that ends with this trial after a number of attempts. -/
def comesTo
    (last : Trial α)
    (description : String)
    (timeout start : Float)
    (attempts : Nat) : Except Failure α :=
  match last.refusal? timeout start with
  | some obstacle => .error (.defect (.ofObstacle obstacle))
  | none => decided description timeout attempts last.outcome

/-- The log entry at the end of a poll that ends with this trial. -/
def closing
    (last : Trial α)
    (description : String)
    (timeout start : Float)
    (attempts : Nat) : List Event :=
  match last.refusal? timeout start with
  | some _ => []
  | none => closingNote last.after description timeout (endingOf last.outcome attempts)

theorem comesTo_of_told
    {last : Trial α} {start : Float}
    (htold : last.refusal? timeout start = none)
    (attempts : Nat) :
    last.comesTo description timeout start attempts =
      decided description timeout attempts last.outcome := by
  rw [comesTo, htold]

theorem closing_of_told
    {last : Trial α} {start : Float}
    (htold : last.refusal? timeout start = none)
    (attempts : Nat) :
    last.closing description timeout start attempts =
      closingNote last.after description timeout (endingOf last.outcome attempts) := by
  rw [closing, htold]

/-- When the time is used up, what keeps the trial from being logged is what keeps the end of the
poll from being logged. -/
theorem endObstacle?_endingOf
    {last : Trial α} {start : Float}
    (hspent : isTransient last.outcome = true → timeout ≤ last.elapsed start)
    (attempts : Nat) :
    endObstacle? last.after (endingOf last.outcome attempts) = last.refusal? timeout start := by
  rcases outcome_cases last.outcome with ⟨seen, hseen⟩ | ⟨cause, hcause⟩ | ⟨hfinal, _, hend⟩
  · rw [refusal?, if_pos (hspent (by rw [hseen]; rfl)), hseen]
    rfl
  · rw [refusal?, if_pos (hspent (by rw [hcause]; rfl)), hcause]
    exact (Session.obstacle?_text _ _ _).symm
  · rw [refusal?_of_final hfinal, hend]

/-- What follows on the loop, which has ended with a decisive trial: the end is told, or the poll
has failed already. -/
theorem runs_end_iff
    {last : Trial α} {start : Float} {attempts : Nat} {result : Except Failure α}
    (hlast : last.IsDecisive timeout start) :
    ((∃ ending,
        loopResult last timeout start attempts = .ok (some ending) ∧
        Action.Runs (do
          ending.note description timeout
          Action.ofExcept (ending.toExcept description timeout)) last.after events result after)
      ∨
      (∃ failure,
        loopResult last timeout start attempts = .error failure ∧
        events = [] ∧ result = .error failure ∧ after = last.after)) ↔
      events = last.closing description timeout start attempts ∧
      result = last.comesTo description timeout start attempts ∧
      after = last.after := by
  by_cases hspent : isTransient last.outcome = true → timeout ≤ last.elapsed start
  · have hloop : loopResult last timeout start attempts =
        .ok (some (endingOf last.outcome attempts)) := by
      cases htransient : isTransient last.outcome with
      | false => exact loopResult_of_final htransient _ _ _
      | true => exact if_pos (hspent htransient)
    have hobstacle := endObstacle?_endingOf hspent attempts
    simp only [hloop, Except.ok.injEq, Option.some.injEq, exists_eq_left', reduceCtorEq, false_and,
      exists_false, or_false]
    cases hrefusal : last.refusal? timeout start with
    | none =>
        rw [runs_tell_iff (hobstacle.trans hrefusal), closing_of_told hrefusal,
          comesTo_of_told hrefusal, toExcept_endingOf]
    | some obstacle =>
        rw [runs_tell_of_refused (hobstacle.trans hrefusal), closing, comesTo, hrefusal]
  · obtain ⟨htransient, hleft⟩ := Classical.not_imp.mp hspent
    have hrefused : last.refusal? timeout start ≠ none := by
      simpa [IsDecisive, htransient, hleft] using hlast
    obtain ⟨obstacle, hobstacle⟩ := Option.ne_none_iff_exists'.mp hrefused
    simp only [loopResult, hleft, if_false, hobstacle, closing, comesTo, reduceCtorEq, false_and,
      exists_false, false_or, Except.error.injEq, exists_eq_left']

end Trial

/-- A sequence that is stuck without a value from its first part. -/
theorem runs_bind_stuck_iff
    {β γ : Type} {action : Action (Option β)} {next : Option β → Action γ}
    {result : Except Failure γ}
    (hstuck : next none = stuck) :
    (action >>= next).Runs before events result after ↔
      ∃ front back outcome middle,
        events = front ++ back ∧
        outcome ≠ .ok none ∧
        action.Runs before front outcome middle ∧
        ((∃ found,
            outcome = .ok (some found) ∧ (next (some found)).Runs middle back result after) ∨
          ∃ failure,
            outcome = .error failure ∧ back = [] ∧ result = .error failure ∧ after = middle) := by
  rw [runs_bind_iff]
  constructor
  · rintro (⟨found?, middle, front, back, rfl, hfront, hback⟩ | ⟨failure, rfl, hfailed⟩)
    · cases found? with
      | none =>
          rw [hstuck] at hback
          exact absurd hback not_runs_stuck
      | some found =>
          exact ⟨front, back, _, middle, rfl, by simp, hfront, Or.inl ⟨found, rfl, hback⟩⟩
    · exact ⟨events, [], _, after, (List.append_nil _).symm, by simp, hfailed,
        Or.inr ⟨failure, rfl, rfl, rfl, rfl⟩⟩
  · rintro ⟨front, back, outcome, middle, rfl, _, hfront,
      ⟨found, rfl, hback⟩ | ⟨failure, rfl, rfl, rfl, rfl⟩⟩
    · exact Or.inl ⟨some found, middle, front, back, rfl, hfront, hback⟩
    · refine Or.inr ⟨failure, rfl, ?_⟩
      rwa [List.append_nil]

/-- A poll makes trials up to the first decisive one. -/
theorem runs_awaitConvergence_of_usable
    {patience : Nat} {result : Except Failure α}
    (husable : ¬IsUnusable interval timeout) :
    (awaitConvergence patience attempt interval timeout description).Runs before events result
        after ↔
      ∃ (start : Float) (earlier : List (Trial α)) (last : Trial α),
        earlier.length < patience ∧
        Consecutive attempt before (earlier ++ [last]) after ∧
        (∀ trial ∈ earlier, ¬trial.IsDecisive timeout start) ∧
        last.IsDecisive timeout start ∧
        events =
          ⟨.now, start⟩ :: (earlierEvents interval timeout description start 1 earlier
            ++ last.lastEvents
            ++ last.closing description timeout start (earlier.length + 1)) ∧
        result = last.comesTo description timeout start (earlier.length + 1) := by
  have hcheck : ¬(interval ≤ 0.0 ∨ timeout ≤ 0.0) := husable
  have hcount : ∀ earlier : List (Trial α), 0 + earlier.length + 1 = earlier.length + 1 := by
    intro earlier
    omega
  unfold awaitConvergence pollLoop
  simp only
  rw [if_neg hcheck]
  change Action.Runs ((query .now >>= fun start =>
    pollFrom (sessionClockwork description) (Action.attempt attempt) ⟨interval, timeout⟩ start
      patience 0) >>= _) before events result after ↔ _
  rw [bind_assoc, runs_query_bind_iff]
  refine exists_congr fun start => ?_
  constructor
  · rintro ⟨rest, rfl, hrest⟩
    obtain ⟨loop, back, outcome, middle, rfl, hends, hloop, hback⟩ :=
      (runs_bind_stuck_iff rfl).mp hrest
    obtain ⟨earlier, last, hlength, hconsecutive, hearlier, hlast, rfl, rfl⟩ :=
      (runs_pollFrom_iff hends).mp hloop
    obtain rfl := hconsecutive.after_last
    rw [hcount] at hback
    obtain ⟨rfl, rfl, rfl⟩ := (Trial.runs_end_iff hlast).mp hback
    exact ⟨earlier, last, hlength, hconsecutive, hearlier, hlast, rfl, rfl⟩
  · rintro ⟨earlier, last, hlength, hconsecutive, hearlier, hlast, rfl, rfl⟩
    have hafter := hconsecutive.after_last
    refine ⟨_, rfl, (runs_bind_stuck_iff rfl).mpr ⟨_, _, loopResult last timeout start
      (earlier.length + 1), last.after, rfl, loopResult_ne_none, ?_,
      (Trial.runs_end_iff hlast).mpr ⟨rfl, rfl, hafter.symm⟩⟩⟩
    rw [hafter]
    exact (runs_pollFrom_iff loopResult_ne_none).mpr
      ⟨earlier, last, hlength, hconsecutive, hearlier, hlast, rfl, by rw [hcount]⟩

theorem sleeps_lastEvents
    (trial : Trial α) :
    Trace.sleeps trial.lastEvents = Trace.sleeps trial.events := by
  unfold Trial.lastEvents
  cases isTransient trial.outcome with
  | false => simp
  | true =>
      rw [Trace.sleeps_append]
      exact List.append_nil _

theorem sleeps_closing
    (last : Trial α)
    (start : Float)
    (attempts : Nat) :
    Trace.sleeps (last.closing description timeout start attempts) = [] := by
  unfold Trial.closing
  split
  · rfl
  · generalize endingOf last.outcome attempts = ending
    cases ending <;> rfl

theorem sleeps_earlierEvents
    (interval timeout start : Float)
    (number : Nat)
    (earlier : List (Trial α)) :
    Trace.sleeps (earlierEvents interval timeout description start number earlier) =
      earlier.flatMap fun trial =>
        Trace.sleeps trial.events ++ [lesserOf interval (timeout - trial.elapsed start)] := by
  induction earlier generalizing number with
  | nil => rfl
  | cons trial rest ih =>
      rw [earlierEvents, Trace.sleeps_append, ih, List.flatMap_cons, Trial.earlierEvents,
        Trace.sleeps_append]
      rfl

/-- **The first decisive attempt ends a poll.**  A poll whose interval and timeout are positive
makes as many attempts as it takes until one is decisive: its outcome is final, or the time since
the start has reached the timeout, or what it has seen cannot be logged.  After every attempt before
that it sleeps once, for the interval or for the time left when that is less.  What the poll comes
to is decided by the last attempt alone, whatever the earlier ones observed: it fails with the
defect of logging or telling what that attempt has seen, and otherwise with the outcome of the
attempt. -/
theorem runs_awaitConvergence_iff_first_decisive
    (patience : Nat)
    (attempt : Action (PollOutcome α))
    (interval timeout : Float)
    (description : String)
    (before after : Session)
    (events : List Event)
    (result : Except Failure α) :
    (awaitConvergence patience attempt interval timeout description).Runs before events result
        after ↔
      if IsUnusable interval timeout then
        events = [] ∧ result = .error unusable ∧ after = before
      else
        ∃ (start : Float) (earlier : List (Trial α)) (last : Trial α),
          earlier.length < patience ∧
          Consecutive attempt before (earlier ++ [last]) after ∧
          (∀ trial ∈ earlier, ¬trial.IsDecisive timeout start) ∧
          last.IsDecisive timeout start ∧
          events =
            ⟨.now, start⟩ :: (earlierEvents interval timeout description start 1 earlier
              ++ last.lastEvents
              ++ last.closing description timeout start (earlier.length + 1)) ∧
          Trace.sleeps events =
            (earlier.flatMap fun trial =>
              Trace.sleeps trial.events ++ [lesserOf interval (timeout - trial.elapsed start)])
              ++ Trace.sleeps last.events ∧
          result = last.comesTo description timeout start (earlier.length + 1) := by
  by_cases hunusable : IsUnusable interval timeout
  · rw [if_pos hunusable]
    exact runs_awaitConvergence_of_unusable hunusable
  · rw [if_neg hunusable, runs_awaitConvergence_of_usable hunusable]
    refine exists_congr fun start => exists_congr fun earlier => exists_congr fun last => ?_
    refine and_congr_right fun _ => and_congr_right fun _ => and_congr_right fun _ =>
      and_congr_right fun _ => and_congr_right fun hevents => ?_
    have hsleeps : Trace.sleeps events =
        (earlier.flatMap fun trial =>
          Trace.sleeps trial.events ++ [lesserOf interval (timeout - trial.elapsed start)])
          ++ Trace.sleeps last.events := by
      rw [hevents]
      change Trace.sleeps (_ ++ _ ++ _) = _
      rw [Trace.sleeps_append, Trace.sleeps_append, sleeps_closing, sleeps_earlierEvents,
        sleeps_lastEvents, List.append_nil]
    exact (and_iff_right hsleeps).symm

/-- Arrays inside of each other. -/
def nested : Nat → Json
  | 0 => .array []
  | levels + 1 => .array [nested levels]

theorem obstacle?_nested (levels : Nat) :
    (nested levels).obstacle? levels = some .tooDeep := by
  induction levels with
  | zero => rfl
  | succ levels ih => simp [nested, Json.obstacle?, Json.obstacleIn?, ih]

/-- An attempt that sees what is nested too deeply to be told, and whose time is used up at once. -/
def untoldTrial : Trial Unit where
  events := []
  outcome := .ok (.pending (.json (nested Json.nestingLimit)))
  after := {}
  reading := 1.0

/-- A poll whose only attempt is pending, with its time used up, comes to a defect and not to a
timeout. -/
theorem untold_in_nested :
    ∃ events,
      (awaitConvergence 1 (pure (.pending (.json (nested Json.nestingLimit))) : Action
        (PollOutcome Unit)) 1.0 1.0 "condition").Runs {} events
        (.error (.defect .nestingTooDeep)) {} ∧
      Trace.sleeps events = [] ∧
      ∀ message seen, Failure.defect .nestingTooDeep ≠ .timedOut message seen 1 := by
  have husable : ¬IsUnusable 1.0 1.0 := by
    decide +kernel
  have hspent : (1.0 : Float) ≤ untoldTrial.elapsed 0.0 := by
    change (1.0 : Float) ≤ 1.0 - 0.0
    decide +kernel
  have hresult : untoldTrial.comesTo "condition" 1.0 0.0 1 = .error (.defect .nestingTooDeep) := by
    have htold : (Observed.json (nested Json.nestingLimit)).told = .error .tooDeep := by
      rw [Observed.told, Json.told, obstacle?_nested]
    change Except.error (Failure.telling _ _) = _
    rw [Failure.telling, htold]
    rfl
  refine ⟨_, (runs_awaitConvergence_of_usable husable).mpr ⟨0.0, [], untoldTrial, Nat.one_pos,
    ⟨runs_pure_iff.mpr ⟨rfl, rfl, rfl⟩, rfl⟩, List.forall_mem_nil _, Or.inr (Or.inl hspent), rfl,
    hresult.symm⟩, ?_, ?_⟩
  · rfl
  · intro message seen hsame
    cases hsame

end Whole

end Poll
end RestartCheck
