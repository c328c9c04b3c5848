import Mathlib.Algebra.Order.Field.Rat
import Mathlib.Tactic.Linarith
import RestartCheck.Proofs.Poll.Trials

/-!
# Polls under a clock that never goes back

The poll loop is written over any type of times.  Here it runs over exact times, in surroundings
whose state holds a clock: an attempt and a sleep are given by what they do to the state, and
neither of them takes the clock back.  Time may also pass behind a clock reading, before anything
follows on it.

**Algorithm.**  A *course* says how far a poll has come: the state of its surroundings, when each
attempt was entered and left, and when each sleep began and ended.  One turn of the loop either is
the last or leads from one course to the next.

**Results.**
* `pollFrom_succ`: what one turn of the loop does.
* `exists_last_of_pollFrom`, `exists_last_of_poll`: a poll goes on up to its last turn, or until no
  attempt is granted any more.
* `exists_ends_of_poll`: a poll with an ending has had its last turn.
-/

namespace RestartCheck

/-- The time at which the budget of a poll is spent. -/
def Pace.deadline
    (pace : Pace ℚ)
    (start : ℚ) : ℚ :=
  start + pace.timeout

/-- The poll gave up for want of time, be it that it did not converge or that the service was still
out of reach. -/
def PollEnd.isExhausted {α : Type} : PollEnd α → Bool
  | .expired _ _ => true
  | .unreached _ _ => true
  | _ => false

namespace Poll

variable {σ α : Type}

theorem isExhausted_endingOf
    (outcome : Except Failure (PollOutcome α))
    (attempts : Nat) :
    (endingOf outcome attempts).isExhausted = isTransient outcome := by
  cases outcome with
  | ok answer => cases answer <;> rfl
  | error failure => cases failure <;> rfl

/-! ## Surroundings and courses -/

/-- What a poll meets: a clock, what an attempt comes to and what it does to the state, what a sleep
does, and what happens behind a clock reading. -/
structure Surroundings (σ α : Type) where
  clock : σ → ℚ
  attempt : σ → Except Failure (PollOutcome α) × σ
  sleep : ℚ → σ → σ
  idle : σ → σ
  le_attempt : ∀ state, clock state ≤ clock (attempt state).2
  le_sleep : ∀ seconds state, clock state ≤ clock (sleep seconds state)
  le_idle : ∀ state, clock state ≤ clock (idle state)

/-- When an attempt was entered and left.  The clock is read on leaving. -/
structure Lap where
  entered : ℚ
  left : ℚ
deriving DecidableEq, Repr

/-- When a sleep began, how long it was to last, and when it ended. -/
structure Pause where
  begun : ℚ
  seconds : ℚ
  ended : ℚ
deriving DecidableEq, Repr

/-- How far a poll has come. -/
structure Course (σ : Type) where
  state : σ
  laps : List Lap := []
  pauses : List Pause := []
deriving DecidableEq, Repr

namespace Surroundings

variable (surroundings : Surroundings σ α)

/-- What the next attempt comes to. -/
def outcome
    (course : Course σ) : Except Failure (PollOutcome α) :=
  (surroundings.attempt course.state).1

/-- When the next attempt is entered and left. -/
def lap
    (course : Course σ) : Lap :=
  ⟨surroundings.clock course.state, surroundings.clock (surroundings.attempt course.state).2⟩

/-- After the next attempt. -/
def tried
    (course : Course σ) : Course σ :=
  { course with
    state := (surroundings.attempt course.state).2
    laps := course.laps ++ [surroundings.lap course] }

/-- After the clock has been read. -/
def looked
    (course : Course σ) : Course σ :=
  { course with state := surroundings.idle course.state }

/-- After a sleep. -/
def slept
    (seconds : ℚ)
    (course : Course σ) : Course σ :=
  { course with
    state := surroundings.sleep seconds course.state
    pauses := course.pauses ++
      [⟨surroundings.clock course.state, seconds,
        surroundings.clock (surroundings.sleep seconds course.state)⟩] }

/-- After a turn of the loop that goes on. -/
def next
    (pace : Pace ℚ)
    (start : ℚ)
    (course : Course σ) : Course σ :=
  surroundings.slept (pace.pause ((surroundings.lap course).left - start))
    (surroundings.looked (surroundings.tried course))

/-- The attempt of the surroundings, put on record. -/
def recorded : StateM (Course σ) (Except Failure (PollOutcome α)) :=
  fun course => (surroundings.outcome course, surroundings.tried course)

/-- The clock and the sleep of the surroundings, put on record. -/
def clockwork : Clockwork (StateM (Course σ)) ℚ where
  now course := (surroundings.clock course.state, surroundings.looked course)
  sleep seconds course := ((), surroundings.slept seconds course)
  waiting _ _ := pure ()

/-- The course before the first attempt. -/
def opening
    (state : σ) : Course σ :=
  surroundings.looked { state := state }

/-- Poll in the surroundings: the ending, unless the granted attempts did not suffice, and the
course up to there. -/
def poll
    (pace : Pace ℚ)
    (patience : Nat)
    (state : σ) : Option (PollEnd α) × Course σ :=
  pollLoop surroundings.clockwork surroundings.recorded pace patience { state := state }

/-- Surroundings in which nothing is ever decided.  Only attempts and sleeps take time, and every
attempt takes as long. -/
def undecided
    (took : ℚ) : Surroundings ℚ Unit where
  clock := id
  attempt now := (.ok (.pending (.json .null)), now + max took 0)
  sleep seconds now := now + max seconds 0
  idle := id
  le_attempt _ := le_add_of_nonneg_right (le_max_right _ _)
  le_sleep _ _ := le_add_of_nonneg_right (le_max_right _ _)
  le_idle _ := le_rfl

end Surroundings

/-! ## One turn of the loop -/

section Turn

variable (surroundings : Surroundings σ α) (pace : Pace ℚ) (start : ℚ)

/-- The loop goes on after the next attempt. -/
def GoesOn
    (course : Course σ) : Prop :=
  isTransient (surroundings.outcome course) = true ∧
  (surroundings.lap course).left < pace.deadline start

/-- The next attempt is the last one.  When it is transient the clock is read after it. -/
structure Ends
    (last : Course σ)
    (ending : PollEnd α)
    (final : Course σ) : Prop where
  ending_eq : ending = endingOf (surroundings.outcome last) (last.laps.length + 1)
  final_eq : final =
    if isTransient (surroundings.outcome last) then surroundings.looked (surroundings.tried last)
    else surroundings.tried last
  spent : isTransient (surroundings.outcome last) = true →
    pace.deadline start ≤ (surroundings.lap last).left

theorem bind_apply
    {β γ : Type}
    (action : StateM (Course σ) β)
    (following : β → StateM (Course σ) γ)
    (course : Course σ) :
    (action >>= following) course = following (action course).1 (action course).2 :=
  rfl

/-- One turn: the attempt is made and judged. -/
theorem pollFrom_succ
    (patience made : Nat)
    (course : Course σ) :
    pollFrom surroundings.clockwork surroundings.recorded pace start (patience + 1) made course =
      if isTransient (surroundings.outcome course) then
        if pace.deadline start ≤ (surroundings.lap course).left then
          (some (endingOf (surroundings.outcome course) (made + 1)),
            surroundings.looked (surroundings.tried course))
        else
          pollFrom surroundings.clockwork surroundings.recorded pace start patience (made + 1)
            (surroundings.next pace start course)
      else
        (some (endingOf (surroundings.outcome course) (made + 1)), surroundings.tried course) := by
  have hspent : pace.deadline start ≤ (surroundings.lap course).left ↔
      pace.timeout ≤ (surroundings.lap course).left - start := by
    rw [Pace.deadline, le_sub_iff_add_le']
  rw [pollFrom, bind_apply]
  cases htransient : isTransient (surroundings.outcome course) with
  | false =>
      have hverdict : Verdict.ofAttempt (surroundings.recorded course).1 =
          .final (endingOf (surroundings.outcome course)) := by
        rw [Surroundings.recorded, ofAttempt_eq, htransient]
        rfl
      rw [hverdict]
      rfl
  | true =>
      have hverdict : Verdict.ofAttempt (surroundings.recorded course).1 =
          .transient (seenIn (surroundings.outcome course))
            (endingOf (surroundings.outcome course)) := by
        rw [Surroundings.recorded, ofAttempt_eq, htransient]
        rfl
      rw [hverdict, if_pos rfl]
      change (if pace.timeout ≤ (surroundings.lap course).left - start then _ else _ :
        StateM (Course σ) (Option (PollEnd α)))
          (surroundings.looked (surroundings.tried course)) = _
      simp only [hspent]
      split
      · rfl
      · rfl

/-- The courses that a poll can come to, turn by turn. -/
inductive Reaches (first : Course σ) : Course σ → Prop
  | here : Reaches first first
  | further {course : Course σ}
      (hreaches : Reaches first course)
      (hgoes : GoesOn surroundings pace start course) :
      Reaches first (surroundings.next pace start course)

end Turn

section Run

variable {surroundings : Surroundings σ α} {pace : Pace ℚ} {start : ℚ}
  {first course last final : Course σ} {ending : PollEnd α}

@[simp] theorem laps_next :
    (surroundings.next pace start course).laps = course.laps ++ [surroundings.lap course] :=
  rfl

theorem Ends.laps_eq
    (hends : Ends surroundings pace start last ending final) :
    final.laps = last.laps ++ [surroundings.lap last] := by
  rw [hends.final_eq]
  split
  · rfl
  · rfl

theorem Ends.pauses_eq
    (hends : Ends surroundings pace start last ending final) :
    final.pauses = last.pauses := by
  rw [hends.final_eq]
  split
  · rfl
  · rfl

/-- A poll gives up at the deadline or later. -/
theorem Ends.deadline_le
    (hends : Ends surroundings pace start last ending final)
    (hexhausted : ending.isExhausted = true) :
    pace.deadline start ≤ (surroundings.lap last).left := by
  rw [hends.ending_eq, isExhausted_endingOf] at hexhausted
  exact hends.spent hexhausted

theorem Ends.left_le_clock
    (hends : Ends surroundings pace start last ending final) :
    (surroundings.lap last).left ≤ surroundings.clock final.state := by
  rw [hends.final_eq]
  split
  · exact surroundings.le_idle _
  · exact le_rfl

/-- The loop goes on up to its last turn.  Without an ending it has made all the attempts that were
granted. -/
theorem exists_last_of_pollFrom
    {patience : Nat} {ending? : Option (PollEnd α)}
    (hreaches : Reaches surroundings pace start first course)
    (hrun : pollFrom surroundings.clockwork surroundings.recorded pace start patience
      course.laps.length course = (ending?, final)) :
    ∃ last, Reaches surroundings pace start first last ∧
      ((ending? = none ∧ final = last ∧ last.laps.length = course.laps.length + patience)
        ∨
        ∃ ending, ending? = some ending ∧ Ends surroundings pace start last ending final) := by
  -- The attempts made so far are those on record, so the course varies along with their number.
  induction patience generalizing course with
  | zero =>
      cases hrun
      exact ⟨_, hreaches, Or.inl ⟨rfl, rfl, rfl⟩⟩
  | succ patience ih =>
      rw [pollFrom_succ] at hrun
      cases htransient : isTransient (surroundings.outcome course) with
      | false =>
          rw [if_neg (by simp [htransient])] at hrun
          cases hrun
          exact ⟨course, hreaches, Or.inr ⟨_, rfl, rfl, by simp [htransient],
            by simp [htransient]⟩⟩
      | true =>
          rw [if_pos htransient] at hrun
          by_cases hspent : pace.deadline start ≤ (surroundings.lap course).left
          · rw [if_pos hspent] at hrun
            cases hrun
            exact ⟨course, hreaches, Or.inr ⟨_, rfl, rfl, by simp [htransient],
              fun _ => hspent⟩⟩
          · have hgoes : GoesOn surroundings pace start course := ⟨htransient, not_le.mp hspent⟩
            have hlength : (surroundings.next pace start course).laps.length =
                course.laps.length + 1 := by
              simp
            rw [if_neg hspent, ← hlength] at hrun
            obtain ⟨last, hlast, hend⟩ := ih (hreaches.further hgoes) hrun
            rw [hlength, Nat.add_right_comm] at hend
            exact ⟨last, hlast, hend⟩

/-- A poll goes on up to its last turn, or until no attempt is granted any more. -/
theorem exists_last_of_poll
    {patience : Nat} {state : σ} {ending? : Option (PollEnd α)}
    (hrun : surroundings.poll pace patience state = (ending?, final)) :
    ∃ last,
      Reaches surroundings pace (surroundings.clock state) (surroundings.opening state) last ∧
      ((ending? = none ∧ final = last ∧ last.laps.length = patience)
        ∨
        ∃ ending,
          ending? = some ending ∧
          Ends surroundings pace (surroundings.clock state) last ending final) := by
  have hloop : pollFrom surroundings.clockwork surroundings.recorded pace
      (surroundings.clock state) patience (surroundings.opening state).laps.length
      (surroundings.opening state) = (ending?, final) :=
    hrun
  obtain ⟨last, hreaches, hend⟩ := exists_last_of_pollFrom .here hloop
  have hnone : (surroundings.opening state).laps.length = 0 := rfl
  rw [hnone, Nat.zero_add] at hend
  exact ⟨last, hreaches, hend⟩

/-- A poll with an ending has had its last turn. -/
theorem exists_ends_of_poll
    {patience : Nat} {state : σ}
    (hrun : surroundings.poll pace patience state = (some ending, final)) :
    ∃ last,
      Reaches surroundings pace (surroundings.clock state) (surroundings.opening state) last ∧
      Ends surroundings pace (surroundings.clock state) last ending final := by
  obtain ⟨last, hreaches, ⟨hnone, _⟩ | ⟨_, hsome, hends⟩⟩ := exists_last_of_poll hrun
  · cases hnone
  · cases hsome
    exact ⟨last, hreaches, hends⟩

/-- Whether a poll gives up can be computed. -/
theorem exists_exhausted_of_any
    {patience : Nat} {state : σ}
    (hany : (surroundings.poll pace patience state).1.any PollEnd.isExhausted = true) :
    ∃ ending,
      surroundings.poll pace patience state =
        (some ending, (surroundings.poll pace patience state).2) ∧
      ending.isExhausted = true := by
  obtain ⟨ending, hending, hexhausted⟩ := (Option.any_eq_true _ _).mp hany
  exact ⟨ending, Prod.ext hending rfl, hexhausted⟩

end Run

end Poll
end RestartCheck
