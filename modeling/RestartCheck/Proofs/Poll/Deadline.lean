import RestartCheck.Proofs.Poll.Clock

/-!
# The last attempt before a poll gives up

A poll gives up when its last attempt was left at the deadline or later.  The attempts before it
were left in time, so the last is the only one that can have been entered at the deadline.  Whether
it was depends on how long it took: an attempt that is still running at the deadline is the last,
although it was entered early.

**Results.**
* `left_lt_deadline_of_reaches`: every attempt but the last is left before the deadline.
* `last_attempt_of_exhausted`: when the last attempt of a poll that gives up was entered.
* `entered_early_in_undecided`: an attempt that was entered before the deadline and is the last.
-/

namespace RestartCheck

/-- The attempt was entered before the deadline, and left at the deadline or later. -/
def Poll.Lap.RunsAcross
    (lap : Poll.Lap)
    (deadline : ℚ) : Prop :=
  lap.entered < deadline ∧ deadline ≤ lap.left

namespace Poll

variable {σ α : Type}

section Deadline

variable {surroundings : Surroundings σ α} {pace : Pace ℚ} {start : ℚ}
  {first last : Course σ}

theorem left_lt_deadline_of_reaches
    (hreaches : Reaches surroundings pace start first last)
    (hfirst : first.laps = []) :
    ∀ lap ∈ last.laps, lap.left < pace.deadline start := by
  induction hreaches with
  | here => simp [hfirst]
  | further _ hgoes ih =>
      intro lap hmem
      rcases List.mem_append.mp hmem with hmem | hmem
      · exact ih lap hmem
      · obtain rfl := List.mem_singleton.mp hmem
        exact hgoes.2

end Deadline

/-- **The last attempt of a poll that gives up.**  It is the first that is left at the deadline or
later.  It was entered at the deadline or later exactly when no attempt ran across the deadline. -/
theorem last_attempt_of_exhausted
    (surroundings : Surroundings σ α)
    (pace : Pace ℚ)
    (patience : Nat)
    (state : σ)
    (ending : PollEnd α)
    (course : Course σ)
    (hrun : surroundings.poll pace patience state = (some ending, course))
    (hexhausted : ending.isExhausted = true) :
    ∃ earlier last,
      course.laps = earlier ++ [last] ∧
      (∀ lap ∈ earlier, lap.left < surroundings.clock state + pace.timeout) ∧
      surroundings.clock state + pace.timeout ≤ last.left ∧
      (surroundings.clock state + pace.timeout ≤ last.entered ↔
        ∀ lap ∈ course.laps, ¬lap.RunsAcross (surroundings.clock state + pace.timeout)) := by
  obtain ⟨before, hreaches, hends⟩ := exists_ends_of_poll hrun
  have hearlier := left_lt_deadline_of_reaches hreaches rfl
  have hlate := hends.deadline_le hexhausted
  refine ⟨before.laps, surroundings.lap before, hends.laps_eq, hearlier, hlate, ?_⟩
  rw [hends.laps_eq]
  constructor
  · intro hentered lap hmem hacross
    rcases List.mem_append.mp hmem with hmem | hmem
    · exact absurd hacross.2 (not_le.mpr (hearlier lap hmem))
    · obtain rfl := List.mem_singleton.mp hmem
      exact absurd hacross.1 (not_lt.mpr hentered)
  · intro hnone
    by_contra hearly
    exact hnone _ (by simp) ⟨not_le.mp hearly, hlate⟩

/-- A poll in which no attempt runs across the deadline, and whose last is entered at it. -/
theorem last_attempt_in_undecided :
    ∃ ending course,
      (Surroundings.undecided (1 / 2)).poll ⟨1, 5 / 2⟩ 4 0 = (some ending, course) ∧
      ending.isExhausted = true ∧
      course.laps = [⟨0, 1 / 2⟩, ⟨3 / 2, 2⟩, ⟨5 / 2, 3⟩] ∧
      ∃ earlier last,
        course.laps = earlier ++ [last] ∧
        (∀ lap ∈ earlier, lap.left < 0 + 5 / 2) ∧
        0 + 5 / 2 ≤ last.left ∧
        (0 + 5 / 2 ≤ last.entered ↔ ∀ lap ∈ course.laps, ¬lap.RunsAcross (0 + 5 / 2)) := by
  have hany : ((Surroundings.undecided (1 / 2)).poll ⟨1, 5 / 2⟩ 4 0).1.any
      PollEnd.isExhausted = true := by
    decide +kernel
  obtain ⟨ending, hrun, hexhausted⟩ := exists_exhausted_of_any hany
  exact ⟨ending, _, hrun, hexhausted, by decide +kernel,
    last_attempt_of_exhausted _ ⟨1, 5 / 2⟩ 4 0 ending _ hrun hexhausted⟩

/-- An attempt that takes longer than the timeout is the last, although it was entered before the
deadline. -/
theorem entered_early_in_undecided :
    ∃ ending course,
      (Surroundings.undecided 5).poll ⟨1, 3⟩ 1 0 = (some ending, course) ∧
      ending.isExhausted = true ∧
      course.laps = [⟨0, 5⟩] ∧
      ¬∃ earlier last, course.laps = earlier ++ [last] ∧ 0 + 3 ≤ last.entered := by
  have hany : ((Surroundings.undecided 5).poll ⟨1, 3⟩ 1 0).1.any
      PollEnd.isExhausted = true := by
    decide +kernel
  have hlaps : ((Surroundings.undecided 5).poll ⟨1, 3⟩ 1 0).2.laps = [⟨0, 5⟩] := by
    decide +kernel
  obtain ⟨ending, hrun, hexhausted⟩ := exists_exhausted_of_any hany
  refine ⟨ending, _, hrun, hexhausted, hlaps, ?_⟩
  rintro ⟨earlier, last, hlast, hlate⟩
  rw [hlaps] at hlast
  obtain rfl : last = ⟨0, 5⟩ := by
    simpa using congrArg List.getLast? hlast.symm
  norm_num at hlate

end Poll
end RestartCheck
