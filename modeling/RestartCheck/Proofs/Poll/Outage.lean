import RestartCheck.Proofs.Effect.Outage
import RestartCheck.Proofs.Poll.Exchanges

/-!
# What a poll does about requests that fail for now

An attempt that ends at once with a transient outcome when a request fails for now is repeated until
the time is used up.  So within the poll such a request is followed by another attempt, unless the
clock reading after it has reached the timeout.

**Results.**
* `followed_earlierEvents`: after every trial but the last the poll goes on.
* `timed_of_runs_awaitConvergence`: a request that fails for now does not end a poll before its
  time.
* `surfaces_awaitConvergence`: a poll that gives up with the service out of reach says so.
-/

namespace RestartCheck
namespace Poll

open RestartCheck.Action Trace

variable {α : Type}

/-- An event of the kind is answered to a request. -/
def OfCalls (kind : Event → Prop) : Prop :=
  ∀ event, kind event → ∃ request answer, event = ⟨.call request, answer⟩

/-- The outcome leaves the poll waiting, and what it lets see can be logged. -/
def Waits
    (session : Session)
    (outcome : Except Failure (PollOutcome α)) : Prop :=
  isTransient outcome = true ∧ ∀ level, session.obstacle? level (seenIn outcome) = none

theorem waits_text
    (session : Session)
    (text : String) :
    Waits (α := α) session (.ok (.pending (.json (.string text)))) :=
  ⟨rfl, fun _ => Session.obstacle?_text _ _ _⟩

theorem waits_unreachable
    (session : Session)
    (cause : String) :
    Waits (α := α) session (.error (.unreachable cause)) :=
  ⟨rfl, fun _ => Session.obstacle?_text _ _ _⟩

/-- An event of the kind ends every run of the attempt at once, and leaves the poll waiting. -/
def Retries
    (kind : Event → Prop)
    (attempt : Action (PollOutcome α)) : Prop :=
  ∀ ⦃before after : Session⦄ ⦃events : List Event⦄
    ⦃outcome : Except Failure (PollOutcome α)⦄,
    attempt.Runs before events outcome after →
      Followed kind (fun rest => rest = [] ∧ Waits after outcome) events

/-- The rest of a poll begins with a clock reading.  Either it has reached the timeout, or the poll
goes on. -/
def IsTimed
    (timeout start : Float)
    (rest : List Event) : Prop :=
  ∃ reading more,
    rest = ⟨.now, reading⟩ :: more ∧ (timeout ≤ reading - start ∨ goesOn rest = true)

section Followed

variable {kind : Event → Prop} {description : String} {interval timeout start : Float}

theorem isTimed_of_goesOn
    {rest : List Event}
    (hgoes : goesOn rest = true) :
    IsTimed timeout start rest := by
  have hreading : ∃ reading more, rest = ⟨.now, reading⟩ :: more := by
    unfold goesOn at hgoes
    split at hgoes
    · exact ⟨_, _, rfl⟩
    · cases hgoes
  obtain ⟨reading, more, hrest⟩ := hreading
  exact ⟨reading, more, hrest, Or.inr hgoes⟩

theorem IsTimed.append
    {rest : List Event}
    (htimed : IsTimed timeout start rest)
    (more : List Event) :
    IsTimed timeout start (rest ++ more) := by
  obtain ⟨reading, others, rfl, hspent | hgoes⟩ := htimed
  · exact ⟨reading, others ++ more, rfl, Or.inl hspent⟩
  · exact isTimed_of_goesOn (goesOn_append hgoes more)

/-- After every trial but the last the poll goes on. -/
theorem followed_earlierEvents
    {number : Nat} {earlier : List (Trial α)}
    (hcalls : OfCalls kind)
    (hearlier : ∀ trial ∈ earlier, Followed kind (· = []) trial.events) :
    Followed kind (goesOn · = true)
      (earlierEvents interval timeout description start number earlier) := by
  induction earlier generalizing number with
  | nil => trivial
  | cons trial rest ih =>
      rw [List.forall_mem_cons] at hearlier
      refine Followed.append ?_ (fun _ hgoes => goesOn_append hgoes _) (ih hearlier.2)
      refine Followed.append hearlier.1 ?_ (followed_of_forall_not ?_)
      · rintro _ rfl
        rfl
      · -- The events that the poll adds are no requests.
        intro event hmem hkind
        obtain ⟨request, answer, rfl⟩ := hcalls event hkind
        simp [noted] at hmem

theorem followed_closing
    {required : List Event → Prop}
    (hcalls : OfCalls kind)
    (last : Trial α)
    (attempts : Nat) :
    Followed kind required (last.closing description timeout start attempts) := by
  refine followed_of_forall_not fun event hmem hkind => ?_
  obtain ⟨request, answer, rfl⟩ := hcalls event hkind
  unfold Trial.closing at hmem
  split at hmem
  · cases hmem
  · generalize endingOf last.outcome attempts = ending at hmem
    cases ending <;> simp [closingNote, noted] at hmem

/-- Within the last trial an event of the kind ends the attempt, and the time is used up. -/
theorem followed_lastEvents
    {last : Trial α}
    (hcalls : OfCalls kind)
    (hlast : last.IsDecisive timeout start)
    (hevents : Followed kind (fun rest => rest = [] ∧ Waits last.after last.outcome) last.events) :
    Followed kind (IsTimed timeout start) last.lastEvents := by
  unfold Trial.lastEvents
  refine Followed.append hevents ?_ (followed_of_forall_not fun event hmem hkind => ?_)
  · rintro _ ⟨rfl, htransient, htold⟩
    rw [if_pos htransient]
    refine ⟨last.reading, [], rfl, Or.inl ?_⟩
    rcases hlast with hfinal | hspent | hrefused
    · rw [htransient] at hfinal
      cases hfinal
    · exact hspent
    · exact absurd (htold _) hrefused
  · obtain ⟨request, answer, rfl⟩ := hcalls event hkind
    split at hmem <;> simp at hmem

end Followed

section Whole

variable {patience : Nat} {attempt : Action (PollOutcome α)} {interval timeout : Float}
  {description : String} {before after : Session} {events : List Event}
  {result : Except Failure α}

/-- A request that fails for now does not end a poll before its time. -/
theorem timed_of_runs_awaitConvergence
    {kind : Event → Prop}
    (hcalls : OfCalls kind)
    (hattempt : Retries kind attempt)
    (hrun : (awaitConvergence patience attempt interval timeout description).Runs before events
      result after) :
    (events = [] ∧ result = .error unusable) ∨
    ∃ start rest,
      events = ⟨.now, start⟩ :: rest ∧ Followed kind (IsTimed timeout start) rest := by
  rcases exists_history_of_runs_awaitConvergence hrun with
    ⟨rfl, rfl, _⟩ | ⟨start, earlier, last, hconsecutive, _, hlast, rfl, _⟩
  · exact Or.inl ⟨rfl, rfl⟩
  · have htrial : ∀ trial ∈ earlier ++ [last],
        Followed kind (fun rest => rest = [] ∧ Waits trial.after trial.outcome) trial.events := by
      intro trial hmem
      obtain ⟨session, hrun⟩ := hconsecutive.exists_runs hmem
      exact hattempt hrun
    refine Or.inr ⟨start, _, rfl, ?_⟩
    rw [List.append_assoc]
    refine Followed.append (followed_earlierEvents hcalls fun trial hmem => ?_)
      (fun rest hgoes => (isTimed_of_goesOn hgoes).append _) ?_
    · exact (htrial trial (List.mem_append_left _ hmem)).mono fun _ hend => hend.1
    · refine Followed.append (followed_lastEvents hcalls hlast (htrial last (by simp)))
        (fun rest htimed => htimed.append _) (followed_closing hcalls _ _)

theorem ofCalls_isOutage :
    OfCalls (Event.isOutage · = true) := by
  rintro ⟨query, answer⟩ houtage
  cases query with
  | call request => exact ⟨request, answer, rfl⟩
  | _ => cases houtage

/-- A poll that gives up with the service out of reach says so. -/
theorem surfaces_awaitConvergence
    (hattempt : ∀ ⦃before after : Session⦄ ⦃events : List Event⦄ ⦃outcome⦄,
      attempt.Runs before events outcome after → Interrupted events (failure? outcome)) :
    Surfaces (awaitConvergence patience attempt interval timeout description) := by
  intro before after events result hrun
  rcases exists_history_of_runs_awaitConvergence hrun with
    ⟨rfl, _, _⟩ | ⟨start, earlier, last, hconsecutive, _, hlast, rfl, rfl⟩
  · exact Or.inl trivial
  · have htrial : ∀ trial ∈ earlier ++ [last],
        Interrupted trial.events (failure? trial.outcome) := by
      intro trial hmem
      obtain ⟨session, hrun⟩ := hconsecutive.exists_runs hmem
      exact hattempt hrun
    by_cases houtage : IsOutage (failure? last.outcome)
    · -- The last attempt did not reach the service, which is what the poll comes to.
      obtain ⟨cause, hcause⟩ := houtage
      have hunreached := failure?_eq_some_iff.mp hcause
      have htold : last.refusal? timeout start = none := by
        rw [Trial.refusal?, hunreached]
        exact Session.obstacle?_text _ _ _
      rw [Trial.comesTo_of_told htold, hunreached]
      exact Or.inr ⟨_, rfl⟩
    · refine Or.inl ?_
      have hunbroken : Unbroken last.events :=
        (htrial last (by simp)).mono fun _ hend => absurd hend.2 houtage
      have hquiet : Unbroken last.lastEvents := by
        refine hunbroken.append (followed_of_forall_not fun event hmem hkind => ?_)
        obtain ⟨request, answer, rfl⟩ := ofCalls_isOutage event hkind
        split at hmem <;> simp at hmem
      refine ⟨fun hkind => absurd hkind Bool.false_ne_true, ?_⟩
      refine Unbroken.append (Unbroken.append (followed_earlierEvents ofCalls_isOutage ?_) hquiet)
        (followed_closing ofCalls_isOutage _ _)
      intro trial hmem
      exact (htrial trial (List.mem_append_left _ hmem)).mono fun _ hend => hend.1

end Whole

end Poll
end RestartCheck
