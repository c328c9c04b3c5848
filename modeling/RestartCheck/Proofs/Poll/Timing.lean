import Mathlib.Data.Rat.Floor
import Mathlib.Tactic.Ring
import RestartCheck.Proofs.Poll.Clock

/-!
# When a poll looks, and how often

The timing of a poll over exact times, when a sleep takes as long as it was asked to and only
attempts and sleeps take time.

**Algorithm.**  A sleep ends one interval after it began, or at the deadline when that comes first.
So the times at which attempts are entered climb by the interval until they stop at the deadline,
whatever the attempts themselves take, and the number of attempts is bounded by how often the
interval fits into the timeout.

**Results.**
* `add_pause`: when a sleep ends.
* `due_le_of_reaches`, `due_eq_of_reaches`: when the attempts of a poll are entered.
* `length_le_ceil_of_reaches`: how many attempts a poll makes before its last.
* `keeps_time_of_isExact`: the timing of a whole poll.
* `ends_within_of_isExact`: a poll ends.
-/

namespace RestartCheck

namespace Pace

/-- The time before which the attempt of the given number, counted from zero, is not entered. -/
def due
    (pace : Pace ℚ)
    (start : ℚ)
    (number : Nat) : ℚ :=
  start + min (number * pace.interval) pace.timeout

section Due

variable {pace : Pace ℚ} {start : ℚ}

theorem due_zero
    (htimeout : 0 ≤ pace.timeout) :
    pace.due start 0 = start := by
  simp [due, htimeout]

/-- The due times climb by the interval until they stop at the deadline. -/
theorem due_succ
    (hinterval : 0 ≤ pace.interval)
    (number : Nat) :
    pace.due start (number + 1) =
      min (pace.due start number + pace.interval) (pace.deadline start) := by
  have hclimb : ((number + 1 : Nat) : ℚ) * pace.interval =
      number * pace.interval + pace.interval := by
    push_cast
    ring
  have hstop : pace.timeout ≤ pace.timeout + pace.interval := by
    linarith
  rw [due, due, deadline, hclimb, add_assoc, ← min_add_add_right, min_add_add_left, min_assoc,
    min_eq_right hstop]

/-- A sleep ends one interval after it began, or at the deadline when that comes first. -/
theorem add_pause
    (reading : ℚ) :
    reading + pace.pause (reading - start) =
      min (reading + pace.interval) (pace.deadline start) := by
  unfold pause deadline
  split
  · next hclipped =>
      rw [min_eq_right (by linarith)]
      ring
  · next hwhole => rw [min_eq_left (by linarith)]

end Due

end Pace

namespace Poll

variable {σ α : Type}

namespace Surroundings

/-- A sleep takes as long as it was asked to, and reading the clock takes no time. -/
structure IsExact
    (surroundings : Surroundings σ α) : Prop where
  clock_sleep : ∀ seconds state, 0 ≤ seconds →
    surroundings.clock (surroundings.sleep seconds state) = surroundings.clock state + seconds
  clock_idle : ∀ state, surroundings.clock (surroundings.idle state) = surroundings.clock state

/-- An attempt takes no time. -/
def IsInstant
    (surroundings : Surroundings σ α) : Prop :=
  ∀ state, surroundings.clock (surroundings.attempt state).2 = surroundings.clock state

theorem isExact_undecided
    (took : ℚ) :
    (undecided took).IsExact where
  clock_sleep seconds now hseconds := by
    simp [undecided, max_eq_left hseconds]
  clock_idle _ := rfl

theorem isInstant_undecided : (undecided 0).IsInstant :=
  fun now => by simp [undecided]

end Surroundings

section Exact

variable {surroundings : Surroundings σ α} {pace : Pace ℚ} {start : ℚ} {state : σ}
  {course last : Course σ}

/-- The sleep asked for after a turn that goes on lasts some time, but not beyond the deadline. -/
theorem pause_pos
    (hinterval : 0 < pace.interval)
    (hgoes : GoesOn surroundings pace start course) :
    0 < pace.pause ((surroundings.lap course).left - start) := by
  have hended : (surroundings.lap course).left +
      pace.pause ((surroundings.lap course).left - start) =
        min ((surroundings.lap course).left + pace.interval) (pace.deadline start) :=
    Pace.add_pause _
  have hlater : (surroundings.lap course).left <
      min ((surroundings.lap course).left + pace.interval) (pace.deadline start) :=
    lt_min (lt_add_of_pos_right _ hinterval) hgoes.2
  linarith

theorem pause_le_interval
    (elapsed : ℚ) :
    pace.pause elapsed ≤ pace.interval := by
  unfold Pace.pause
  split
  · next hclipped => exact hclipped.le
  · exact le_rfl

/-- After a turn that goes on the clock stands where the sleep has ended. -/
theorem clock_next
    (hexact : surroundings.IsExact)
    (hinterval : 0 < pace.interval)
    (hgoes : GoesOn surroundings pace start course) :
    surroundings.clock (surroundings.next pace start course).state =
      min ((surroundings.lap course).left + pace.interval) (pace.deadline start) := by
  rw [← Pace.add_pause]
  change surroundings.clock (surroundings.sleep _ (surroundings.idle _)) = _
  rw [hexact.clock_sleep _ _ (pause_pos hinterval hgoes).le, hexact.clock_idle]
  rfl

/-! ## When attempts are entered -/

/-- Every attempt on record was entered when it was due, up to the relation, and so is the next. -/
structure EntersDue
    (relation : ℚ → ℚ → Prop)
    (surroundings : Surroundings σ α)
    (pace : Pace ℚ)
    (start : ℚ)
    (course : Course σ) : Prop where
  entered : ∀ (number : Nat) lap, course.laps[number]? = some lap →
    relation (pace.due start number) lap.entered
  coming : relation (pace.due start course.laps.length) (surroundings.clock course.state)

section EntersDue

variable {relation : ℚ → ℚ → Prop}

/-- The next attempt is entered when it is due, like those on record. -/
theorem EntersDue.entered_append
    (hdue : EntersDue relation surroundings pace start course)
    {number : Nat} {lap : Lap}
    (hlap : (course.laps ++ [surroundings.lap course])[number]? = some lap) :
    relation (pace.due start number) lap.entered := by
  rcases Nat.lt_or_ge number course.laps.length with hknown | hnext
  · rw [List.getElem?_append_left hknown] at hlap
    exact hdue.entered number lap hlap
  · rw [List.getElem?_append_right hnext, List.getElem?_singleton] at hlap
    split at hlap
    · next hfirst =>
        cases hlap
        obtain rfl : number = course.laps.length := by
          omega
        exact hdue.coming
    · cases hlap

theorem EntersDue.next
    (hexact : surroundings.IsExact)
    (hinterval : 0 < pace.interval)
    (hgoes : GoesOn surroundings pace start course)
    (hattempt : ∀ due, relation due (surroundings.lap course).entered →
      relation due (surroundings.lap course).left)
    (hclimb : ∀ due time, relation due time →
      relation (min (due + pace.interval) (pace.deadline start))
        (min (time + pace.interval) (pace.deadline start)))
    (hdue : EntersDue relation surroundings pace start course) :
    EntersDue relation surroundings pace start (surroundings.next pace start course) where
  entered _ _ hlap := hdue.entered_append hlap
  coming := by
    rw [clock_next hexact hinterval hgoes, laps_next, List.length_append, List.length_singleton,
      Pace.due_succ hinterval.le]
    exact hclimb _ _ (hattempt _ hdue.coming)

/-- The attempts of a whole poll are entered when they are due. -/
theorem EntersDue.of_reaches
    (hexact : surroundings.IsExact)
    (hinterval : 0 < pace.interval)
    (htimeout : 0 < pace.timeout)
    (hrefl : ∀ time, relation time time)
    (hattempt : ∀ course due, relation due (surroundings.lap course).entered →
      relation due (surroundings.lap course).left)
    (hclimb : ∀ due time, relation due time →
      relation (min (due + pace.interval) (pace.deadline (surroundings.clock state)))
        (min (time + pace.interval) (pace.deadline (surroundings.clock state))))
    (hreaches : Reaches surroundings pace (surroundings.clock state) (surroundings.opening state)
      last) :
    EntersDue relation surroundings pace (surroundings.clock state) last := by
  induction hreaches with
  | here =>
      refine ⟨fun number lap hlap => (by cases hlap), ?_⟩
      have hopened : surroundings.clock (surroundings.opening state).state =
          surroundings.clock state :=
        hexact.clock_idle state
      change relation (pace.due (surroundings.clock state) 0)
        (surroundings.clock (surroundings.opening state).state)
      rw [hopened, Pace.due_zero htimeout.le]
      exact hrefl _
  | further _ hgoes ih => exact ih.next hexact hinterval hgoes (hattempt _) hclimb

end EntersDue

/-- No attempt is entered before it is due. -/
theorem due_le_of_reaches
    (hexact : surroundings.IsExact)
    (hinterval : 0 < pace.interval)
    (htimeout : 0 < pace.timeout)
    (hreaches : Reaches surroundings pace (surroundings.clock state) (surroundings.opening state)
      last) :
    EntersDue (· ≤ ·) surroundings pace (surroundings.clock state) last :=
  EntersDue.of_reaches hexact hinterval htimeout le_refl
    (fun course _ hdue => hdue.trans (surroundings.le_attempt course.state))
    (fun _ _ hdue => min_le_min_right _ (add_le_add_left hdue _)) hreaches

/-- Attempts that take no time are entered exactly when they are due. -/
theorem due_eq_of_reaches
    (hexact : surroundings.IsExact)
    (hinstant : surroundings.IsInstant)
    (hinterval : 0 < pace.interval)
    (htimeout : 0 < pace.timeout)
    (hreaches : Reaches surroundings pace (surroundings.clock state) (surroundings.opening state)
      last) :
    EntersDue (· = ·) surroundings pace (surroundings.clock state) last :=
  EntersDue.of_reaches hexact hinterval htimeout (fun _ => rfl)
    (fun course _ hdue => hdue.trans (hinstant course.state).symm)
    (fun _ _ hdue => by rw [hdue]) hreaches

/-! ## How long a poll sleeps -/

/-- The sleep lasts some time, at most an interval, and not beyond the deadline. -/
structure Pause.IsMeasured
    (pause : Pause)
    (pace : Pace ℚ)
    (start : ℚ) : Prop where
  pos : 0 < pause.seconds
  le_interval : pause.seconds ≤ pace.interval
  ended_le : pause.ended ≤ pace.deadline start

theorem isMeasured_of_reaches
    (hexact : surroundings.IsExact)
    (hinterval : 0 < pace.interval)
    (hreaches : Reaches surroundings pace (surroundings.clock state) (surroundings.opening state)
      last) :
    ∀ pause ∈ last.pauses, pause.IsMeasured pace (surroundings.clock state) := by
  induction hreaches with
  | here => simp [Surroundings.opening, Surroundings.looked]
  | further _ hgoes ih =>
      intro pause hmem
      rcases List.mem_append.mp hmem with hmem | hmem
      · exact ih pause hmem
      · obtain rfl := List.mem_singleton.mp hmem
        refine ⟨pause_pos hinterval hgoes, pause_le_interval _, ?_⟩
        exact (clock_next hexact hinterval hgoes).trans_le (min_le_right _ _)

/-! ## How often a poll looks -/

/-- A poll that goes on has made fewer attempts than there are intervals in the timeout. -/
theorem length_lt_ceil_of_goesOn
    (hinterval : 0 < pace.interval)
    (hdue : pace.due start course.laps.length ≤ surroundings.clock course.state)
    (hgoes : GoesOn surroundings pace start course) :
    course.laps.length < ⌈pace.timeout / pace.interval⌉₊ := by
  have hearly : pace.due start course.laps.length < pace.deadline start :=
    (hdue.trans (surroundings.le_attempt course.state)).trans_lt hgoes.2
  have hshort : min (course.laps.length * pace.interval) pace.timeout < pace.timeout := by
    unfold Pace.due Pace.deadline at hearly
    linarith
  have hfits : course.laps.length * pace.interval < pace.timeout := by
    simpa using hshort
  exact Nat.lt_ceil.mpr ((lt_div_iff₀ hinterval).mpr hfits)

theorem length_le_ceil_of_reaches
    (hexact : surroundings.IsExact)
    (hinterval : 0 < pace.interval)
    (htimeout : 0 < pace.timeout)
    (hreaches : Reaches surroundings pace (surroundings.clock state) (surroundings.opening state)
      last) :
    last.laps.length ≤ ⌈pace.timeout / pace.interval⌉₊ := by
  induction hreaches with
  | here => exact Nat.zero_le _
  | further hreaches hgoes _ =>
      rw [laps_next, List.length_append, List.length_singleton]
      have hdue := due_le_of_reaches hexact hinterval htimeout hreaches
      exact length_lt_ceil_of_goesOn hinterval hdue.coming hgoes

/-! ## The whole poll -/

variable {patience : Nat} {ending? : Option (PollEnd α)} {final : Course σ}

/-- What relates the due times to the attempts on record before the last relates them to all. -/
theorem EntersDue.entered_of_poll
    {relation : ℚ → ℚ → Prop}
    (hrun : surroundings.poll pace patience state = (ending?, final))
    (hdue : ∀ last,
      Reaches surroundings pace (surroundings.clock state) (surroundings.opening state) last →
      EntersDue relation surroundings pace (surroundings.clock state) last)
    {number : Nat} {lap : Lap}
    (hlap : final.laps[number]? = some lap) :
    relation (pace.due (surroundings.clock state) number) lap.entered := by
  obtain ⟨last, hreaches, ⟨_, rfl, _⟩ | ⟨ending, _, hends⟩⟩ := exists_last_of_poll hrun
  · exact (hdue final hreaches).entered number lap hlap
  · rw [hends.laps_eq] at hlap
    exact (hdue last hreaches).entered_append hlap

/-- **A poll keeps time.**  No attempt is entered before one interval has passed for every attempt
before it, unless the timeout has.  Every sleep lasts some time, at most an interval, and ends by
the deadline.  The poll does not give up before the deadline.  And when attempts take no time they
are entered exactly one interval apart, until the deadline. -/
theorem keeps_time_of_isExact
    (surroundings : Surroundings σ α)
    (hexact : surroundings.IsExact)
    (pace : Pace ℚ)
    (hinterval : 0 < pace.interval)
    (htimeout : 0 < pace.timeout)
    (patience : Nat)
    (state : σ)
    (ending? : Option (PollEnd α))
    (course : Course σ)
    (hrun : surroundings.poll pace patience state = (ending?, course)) :
    (∀ (number : Nat) lap, course.laps[number]? = some lap →
      surroundings.clock state + min (number * pace.interval) pace.timeout ≤ lap.entered) ∧
    (∀ pause ∈ course.pauses,
      0 < pause.seconds ∧ pause.seconds ≤ pace.interval ∧
      pause.ended ≤ surroundings.clock state + pace.timeout) ∧
    (∀ ending, ending? = some ending → ending.isExhausted = true →
      surroundings.clock state + pace.timeout ≤ surroundings.clock course.state) ∧
    (surroundings.IsInstant → ∀ (number : Nat) lap, course.laps[number]? = some lap →
      lap.entered = surroundings.clock state + min (number * pace.interval) pace.timeout) := by
  refine ⟨fun number lap hlap => ?_, fun pause hmem => ?_, fun ending hending hexhausted => ?_,
    fun hinstant number lap hlap => ?_⟩
  · exact EntersDue.entered_of_poll hrun
      (fun _ => due_le_of_reaches hexact hinterval htimeout) hlap
  · obtain ⟨last, hreaches, hend⟩ := exists_last_of_poll hrun
    have hpauses : course.pauses = last.pauses := by
      rcases hend with ⟨_, rfl, _⟩ | ⟨_, _, hends⟩
      · rfl
      · exact hends.pauses_eq
    rw [hpauses] at hmem
    have hmeasured := isMeasured_of_reaches hexact hinterval hreaches pause hmem
    exact ⟨hmeasured.pos, hmeasured.le_interval, hmeasured.ended_le⟩
  · subst hending
    obtain ⟨last, _, hends⟩ := exists_ends_of_poll hrun
    exact (hends.deadline_le hexhausted).trans hends.left_le_clock
  · exact (EntersDue.entered_of_poll hrun
      (fun _ => due_eq_of_reaches hexact hinstant hinterval htimeout) hlap).symm

/-- Attempts of half a unit of time each, and attempts that take no time.  In both polls the last
sleep is cut short. -/
theorem keeps_time_in_undecided :
    (∃ ending course,
      (Surroundings.undecided (1 / 2)).poll ⟨1, 5 / 2⟩ 4 0 = (some ending, course) ∧
      ending.isExhausted = true ∧
      course.laps = [⟨0, 1 / 2⟩, ⟨3 / 2, 2⟩, ⟨5 / 2, 3⟩] ∧
      course.pauses = [⟨1 / 2, 1, 3 / 2⟩, ⟨2, 1 / 2, 5 / 2⟩] ∧
      (∀ (number : Nat) lap, course.laps[number]? = some lap →
        0 + min ((number : ℚ) * 1) (5 / 2) ≤ lap.entered) ∧
      (∀ pause ∈ course.pauses,
        0 < pause.seconds ∧ pause.seconds ≤ 1 ∧ pause.ended ≤ 0 + 5 / 2) ∧
      0 + 5 / 2 ≤ course.state) ∧
    ∃ ending? course,
      (Surroundings.undecided 0).poll ⟨2, 3⟩ 4 0 = (ending?, course) ∧
      course.laps = [⟨0, 0⟩, ⟨2, 2⟩, ⟨3, 3⟩] ∧
      ∀ (number : Nat) lap, course.laps[number]? = some lap →
        lap.entered = 0 + min ((number : ℚ) * 2) 3 := by
  constructor
  · have hany : ((Surroundings.undecided (1 / 2)).poll ⟨1, 5 / 2⟩ 4 0).1.any
        PollEnd.isExhausted = true := by
      decide +kernel
    obtain ⟨ending, hrun, hexhausted⟩ := exists_exhausted_of_any hany
    obtain ⟨hentered, hpauses, hgives, _⟩ := keeps_time_of_isExact _
      (Surroundings.isExact_undecided _) ⟨1, 5 / 2⟩ (by norm_num) (by norm_num) 4 0 _ _ hrun
    exact ⟨ending, _, hrun, hexhausted, by decide +kernel, by decide +kernel, hentered, hpauses,
      hgives ending rfl hexhausted⟩
  · obtain ⟨_, _, _, hexactly⟩ := keeps_time_of_isExact _
      (Surroundings.isExact_undecided 0) ⟨2, 3⟩ (by norm_num) (by norm_num) 4 0 _ _ rfl
    exact ⟨_, _, rfl, by decide +kernel, hexactly Surroundings.isInstant_undecided⟩

/-- **A poll ends.**  It makes at most one attempt more than there are intervals in the timeout,
whatever the attempts come to and however long they take. -/
theorem ends_within_of_isExact
    (surroundings : Surroundings σ α)
    (hexact : surroundings.IsExact)
    (pace : Pace ℚ)
    (hinterval : 0 < pace.interval)
    (htimeout : 0 < pace.timeout)
    (patience : Nat)
    (hpatience : ⌈pace.timeout / pace.interval⌉₊ < patience)
    (state : σ) :
    ∃ ending course,
      surroundings.poll pace patience state = (some ending, course) ∧
      course.laps.length ≤ ⌈pace.timeout / pace.interval⌉₊ + 1 := by
  obtain ⟨last, hreaches, hend⟩ := exists_last_of_poll
    (Prod.eta (surroundings.poll pace patience state)).symm
  have hbound := length_le_ceil_of_reaches hexact hinterval htimeout hreaches
  rcases hend with ⟨_, _, hspent⟩ | ⟨ending, hending, hends⟩
  · omega
  · refine ⟨ending, _, Prod.ext hending rfl, ?_⟩
    rw [hends.laps_eq, List.length_append, List.length_singleton]
    omega

/-- Two intervals and a half fit into the timeout, so that there are at most four attempts. -/
theorem ends_within_in_undecided :
    ∃ ending course,
      (Surroundings.undecided (1 / 2)).poll ⟨1, 5 / 2⟩ 4 0 = (some ending, course) ∧
      course.laps.length ≤ ⌈(5 / 2 : ℚ) / 1⌉₊ + 1 :=
  ends_within_of_isExact _ (Surroundings.isExact_undecided _) ⟨1, 5 / 2⟩ (by norm_num)
    (by norm_num) 4 (Nat.lt_of_le_of_lt (Nat.ceil_le.mpr (by norm_num)) (Nat.lt_succ_self 3)) 0

end Exact

end Poll
end RestartCheck
