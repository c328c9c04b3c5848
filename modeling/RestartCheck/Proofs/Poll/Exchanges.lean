import RestartCheck.Proofs.Poll.Trials
import RestartCheck.Proofs.Effect.Failures
import RestartCheck.Proofs.Effect.Permits

/-!
# What a poll exchanges with the service

A poll exchanges with the service what its trials exchange, in order.  When it succeeds its last
trial converged; when it fails none of them did.

**Results.**
* `exists_history_of_runs_awaitConvergence`: the events of a poll by trials.
* `exists_trials_of_runs_awaitConvergence`: the exchanges of a poll by trials.
* `exists_converged_of_runs_awaitConvergence`, `not_converged_of_runs_awaitConvergence`: what
  success and failure say about the trials.
* `raises_awaitConvergence`: a poll fails like its attempt, or because of the service.
-/

namespace RestartCheck
namespace Poll

open RestartCheck.Action Trace

variable {α : Type} {attempt : Action (PollOutcome α)}

theorem Consecutive.exists_runs
    {before after : Session} {trials : List (Trial α)} {trial : Trial α}
    (hconsecutive : Consecutive attempt before trials after)
    (hmem : trial ∈ trials) :
    ∃ session, attempt.Runs session trial.events trial.outcome trial.after := by
  induction trials generalizing before with
  | nil => cases hmem
  | cons first rest ih =>
      obtain ⟨hfirst, hrest⟩ := hconsecutive
      rcases List.mem_cons.mp hmem with rfl | hmem
      · exact ⟨before, hfirst⟩
      · exact ih hrest hmem

def exchangesOf (trials : List (Trial α)) : List Exchange :=
  trials.flatMap fun trial => exchanges trial.events

theorem exchanges_earlierEvents
    (interval timeout : Float)
    (description : String)
    (start : Float)
    (number : Nat)
    (earlier : List (Trial α)) :
    exchanges (earlierEvents interval timeout description start number earlier) =
      exchangesOf earlier := by
  induction earlier generalizing number with
  | nil => rfl
  | cons trial rest ih =>
      rw [earlierEvents, exchanges_append, ih, Trial.earlierEvents, exchanges_append, exchangesOf,
        exchangesOf, List.flatMap_cons]
      congr 1
      exact List.append_nil _

theorem exchanges_lastEvents
    (trial : Trial α) :
    exchanges trial.lastEvents = exchanges trial.events := by
  unfold Trial.lastEvents
  rw [exchanges_append]
  cases isTransient trial.outcome with
  | false => exact List.append_nil _
  | true => exact List.append_nil _

theorem exchanges_closing
    (last : Trial α)
    (description : String)
    (timeout start : Float)
    (attempts : Nat) :
    exchanges (last.closing description timeout start attempts) = [] := by
  unfold Trial.closing
  split
  · rfl
  · generalize endingOf last.outcome attempts = ending
    cases ending <;> rfl

/-- The clock is read after every trial after which the poll goes on. -/
theorem readings_earlierEvents
    (interval timeout : Float)
    (description : String)
    (start : Float)
    (number : Nat)
    (earlier : List (Trial α)) :
    readings (earlierEvents interval timeout description start number earlier) =
      earlier.flatMap fun trial => readings trial.events ++ [trial.reading] := by
  induction earlier generalizing number with
  | nil => rfl
  | cons trial rest ih =>
      rw [earlierEvents, readings_append, ih, Trial.earlierEvents, readings_append,
        List.flatMap_cons]
      rfl

theorem readings_lastEvents
    (trial : Trial α) :
    readings trial.lastEvents =
      readings trial.events ++ if isTransient trial.outcome then [trial.reading] else [] := by
  unfold Trial.lastEvents
  rw [readings_append]
  cases isTransient trial.outcome with
  | false => rfl
  | true => rfl

theorem readings_closing
    (last : Trial α)
    (description : String)
    (timeout start : Float)
    (attempts : Nat) :
    readings (last.closing description timeout start attempts) = [] := by
  unfold Trial.closing
  split
  · rfl
  · generalize endingOf last.outcome attempts = ending
    cases ending <;> rfl

theorem decided_eq_ok_iff
    {description : String} {timeout : Float} {attempts : Nat}
    {outcome : Except Failure (PollOutcome α)} {value : α} :
    decided description timeout attempts outcome = .ok value ↔
      outcome = .ok (.converged value) := by
  cases outcome with
  | ok answer => cases answer <;> simp [decided]
  | error failure => cases failure <;> simp [decided]

/-- A poll succeeds when its last trial converged. -/
theorem comesTo_eq_ok_iff
    {description : String} {timeout start : Float} {attempts : Nat} {last : Trial α} {value : α} :
    last.comesTo description timeout start attempts = .ok value ↔
      last.outcome = .ok (.converged value) := by
  cases hrefusal : last.refusal? timeout start with
  | none => rw [Trial.comesTo_of_told hrefusal, decided_eq_ok_iff]
  | some obstacle =>
      refine iff_of_false (by simp [Trial.comesTo, hrefusal]) fun hconverged => ?_
      rw [Trial.refusal?_of_final (by rw [hconverged]; rfl)] at hrefusal
      cases hrefusal

section Whole

variable {patience : Nat} {interval timeout : Float} {description : String}
  {before after : Session} {events : List Event}

/-- The history of a poll: trials after which it goes on, and a decisive one.  The poll is refused
when its budget is not positive. -/
theorem exists_history_of_runs_awaitConvergence
    {result : Except Failure α}
    (hrun : (awaitConvergence patience attempt interval timeout description).Runs before events
      result after) :
    (events = [] ∧ result = .error unusable ∧ after = before)
    ∨
    ∃ (start : Float) (earlier : List (Trial α)) (last : Trial α),
      Consecutive attempt before (earlier ++ [last]) after ∧
      (∀ trial ∈ earlier, ¬trial.IsDecisive timeout start) ∧
      last.IsDecisive timeout start ∧
      events =
        ⟨.now, start⟩ :: (earlierEvents interval timeout description start 1 earlier
          ++ last.lastEvents
          ++ last.closing description timeout start (earlier.length + 1)) ∧
      result = last.comesTo description timeout start (earlier.length + 1) := by
  by_cases hunusable : IsUnusable interval timeout
  · exact Or.inl ((runs_awaitConvergence_of_unusable hunusable).mp hrun)
  · obtain ⟨start, earlier, last, _, hhistory⟩ :=
      (runs_awaitConvergence_of_usable hunusable).mp hrun
    exact Or.inr ⟨start, earlier, last, hhistory⟩

theorem exchanges_history
    (start : Float)
    (earlier : List (Trial α))
    (last : Trial α) :
    exchanges (⟨.now, start⟩ :: (earlierEvents interval timeout description start 1 earlier
      ++ last.lastEvents
      ++ last.closing description timeout start (earlier.length + 1))) =
    exchangesOf (earlier ++ [last]) := by
  change exchanges (_ ++ _ ++ _) = _
  rw [exchanges_append, exchanges_append, exchanges_earlierEvents, exchanges_lastEvents,
    exchanges_closing, List.append_nil, exchangesOf, exchangesOf, List.flatMap_append]
  simp

theorem isTransient_of_not_isDecisive
    {trial : Trial α} {start : Float}
    (hgoing : ¬trial.IsDecisive timeout start) :
    isTransient trial.outcome = true := by
  simpa using fun hfinal => hgoing (Or.inl hfinal)

/-- The exchanges of a poll by trials. -/
theorem exists_trials_of_runs_awaitConvergence
    {result : Except Failure α}
    (hrun : (awaitConvergence patience attempt interval timeout description).Runs before events
      result after) :
    (events = [] ∧ result = .error unusable ∧ after = before)
    ∨
    ∃ (start : Float) (earlier : List (Trial α)) (last : Trial α),
      Consecutive attempt before (earlier ++ [last]) after ∧
      (∀ trial ∈ earlier, isTransient trial.outcome = true) ∧
      exchanges events = exchangesOf (earlier ++ [last]) ∧
      result = last.comesTo description timeout start (earlier.length + 1) := by
  rcases exists_history_of_runs_awaitConvergence hrun with
    hrefused | ⟨start, earlier, last, hconsecutive, hearlier, _, rfl, hresult⟩
  · exact Or.inl hrefused
  · exact Or.inr ⟨start, earlier, last, hconsecutive,
      fun trial hmem => isTransient_of_not_isDecisive (hearlier trial hmem),
      exchanges_history _ _ _, hresult⟩

theorem exists_trials_of_usable
    {result : Except Failure α}
    (husable : ¬IsUnusable interval timeout)
    (hrun : (awaitConvergence patience attempt interval timeout description).Runs before events
      result after) :
    ∃ (start : Float) (earlier : List (Trial α)) (last : Trial α),
      Consecutive attempt before (earlier ++ [last]) after ∧
      (∀ trial ∈ earlier, isTransient trial.outcome = true) ∧
      exchanges events = exchangesOf (earlier ++ [last]) ∧
      result = last.comesTo description timeout start (earlier.length + 1) := by
  rcases exists_trials_of_runs_awaitConvergence hrun with ⟨rfl, _, _⟩ | htrials
  · -- A poll that is not refused has read the clock.
    obtain ⟨_, _, _, _, _, _, _, hevents, _⟩ := (runs_awaitConvergence_of_usable husable).mp hrun
    cases hevents
  · exact htrials

/-- A poll that succeeds ends with a trial that converged. -/
theorem exists_converged_of_runs_awaitConvergence
    {value : α}
    (hrun : (awaitConvergence patience attempt interval timeout description).Runs before events
      (.ok value) after) :
    ∃ (session : Session) (last : List Event) (front : List Exchange),
      attempt.Runs session last (.ok (.converged value)) after ∧
      exchanges events = front ++ exchanges last := by
  rcases exists_trials_of_runs_awaitConvergence hrun with
    ⟨_, hresult, _⟩ | ⟨start, earlier, last, hconsecutive, _, hexchanges, hresult⟩
  · cases hresult
  · have hconverged : last.outcome = .ok (.converged value) := comesTo_eq_ok_iff.mp hresult.symm
    obtain ⟨session, hlast⟩ := hconsecutive.exists_runs (by simp : last ∈ earlier ++ [last])
    rw [hconverged, hconsecutive.after_last] at hlast
    refine ⟨session, last.events, exchangesOf earlier, hlast, ?_⟩
    rw [hexchanges, exchangesOf, List.flatMap_append]
    simp [exchangesOf]

/-- No trial of a poll that fails has converged. -/
theorem not_converged_of_runs_awaitConvergence
    {failure : Failure} {exchange : Exchange}
    (hrun : (awaitConvergence patience attempt interval timeout description).Runs before events
      (.error failure) after)
    (hmem : exchange ∈ exchanges events) :
    ∃ (session : Session) (trial : Trial α),
      attempt.Runs session trial.events trial.outcome trial.after ∧
      exchange ∈ exchanges trial.events ∧
      ∀ value, trial.outcome ≠ .ok (.converged value) := by
  rcases exists_trials_of_runs_awaitConvergence hrun with
    ⟨rfl, _, _⟩ | ⟨start, earlier, last, hconsecutive, hearlier, hexchanges, hresult⟩
  · simp at hmem
  · rw [hexchanges] at hmem
    obtain ⟨trial, htrial, hmem⟩ := List.mem_flatMap.mp hmem
    obtain ⟨session, hattempt⟩ := hconsecutive.exists_runs htrial
    refine ⟨session, trial, hattempt, hmem, ?_⟩
    intro value hconverged
    rcases List.mem_append.mp htrial with htrial | htrial
    · have htransient := hearlier trial htrial
      rw [hconverged] at htransient
      cases htransient
    · obtain rfl := List.mem_singleton.mp htrial
      rw [comesTo_eq_ok_iff.mpr hconverged] at hresult
      cases hresult

theorem isOfService_telling
    {seen : Observed} {failure : String → Failure}
    (hfailure : ∀ text, (failure text).IsOfService) :
    (Failure.telling seen failure).IsOfService := by
  unfold Failure.telling
  split
  · exact hfailure _
  · exact Failure.isOfService_ofObstacle _

/-- A poll fails with the failure of its last attempt, unless the service is to blame. -/
theorem isOfService_of_comesTo
    {start : Float} {attempts : Nat} {last : Trial α} {failure : Failure}
    (hfailed : last.comesTo description timeout start attempts = .error failure) :
    failure.IsOfService ∨ last.outcome = .error failure := by
  unfold Trial.comesTo at hfailed
  split at hfailed
  · cases hfailed
    exact Or.inl (Failure.isOfService_ofObstacle _)
  unfold decided at hfailed
  split at hfailed
  · cases hfailed
  · cases hfailed
    exact Or.inl trivial
  · cases hfailed
    exact Or.inl (isOfService_telling fun _ => trivial)
  · cases hfailed
    exact Or.inl (isOfService_telling fun _ => trivial)
  · cases hfailed
    exact Or.inl trivial
  · next known _ houtcome =>
      cases hfailed
      exact Or.inr houtcome

theorem raises_awaitConvergence
    {allowed : Failure → Prop}
    (hservice : ∀ failure : Failure, failure.IsOfService → allowed failure)
    (hattempt : Raises allowed attempt) :
    Raises allowed (awaitConvergence patience attempt interval timeout description) := by
  intro before after events failure hrun
  rcases exists_trials_of_runs_awaitConvergence hrun with
    ⟨_, hresult, _⟩ | ⟨start, earlier, last, hconsecutive, _, hexchanges, hresult⟩
  · cases hresult
    exact Or.inl (hservice _ trivial)
  · rcases isOfService_of_comesTo hresult.symm with hblamed | hfailed
    · exact Or.inl (hservice failure hblamed)
    · obtain ⟨session, hlast⟩ := hconsecutive.exists_runs (by simp : last ∈ earlier ++ [last])
      rw [hfailed] at hlast
      refine (hattempt hlast).imp_right fun hcame => hcame.of_subset ?_
      rw [hexchanges, exchangesOf, List.flatMap_append]
      simp

end Whole

end Poll
end RestartCheck
