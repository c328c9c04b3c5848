import RestartCheck.Proofs.Effect.Served
import RestartCheck.Proofs.Json.Crash

/-!
# Attempts that crash

An answer is *unreadable* for an attempt when looking into it crashes.  An attempt that reads its
answers one after the other crashes at the first unreadable one.  Without any it ends in order: with
an outcome, or with a failure of the checks.

**Results.**
* `stumblesWhen_liftM_bind`, `stumblesWhen_call_bind`, `stumblesWhen_unless`: attempts that are
  composed.
* `stumblesWhen_object_bind`: the body of an answer.
* `StumblesWhen.ends_iff`: how an attempt ends.
-/

namespace RestartCheck

open RestartCheck.Action Trace

/-- The attempt ends with an outcome, or with a failure of the checks. -/
inductive EndsInOrder {α : Type} : Except Failure (PollOutcome α) → Prop
  | converged (value : α) : EndsInOrder (.ok (.converged value))
  | pending (seen : Observed) : EndsInOrder (.ok (.pending seen))
  | fatal (reason : String) (details : Json) : EndsInOrder (.ok (.fatal reason details))
  | raised {failure : Failure} (hchecks : failure.IsOfChecks) : EndsInOrder (.error failure)

/-- Every request was answered. -/
def Answered (events : List Event) : Prop :=
  ∀ exchange ∈ exchanges events, ∃ response, exchange.answer = .ok response

section Attempts

variable {α β : Type} {unreadable : Exchange → Prop} {condition other : Prop}
  {events : List Event}

theorem Crashes.not_endsInOrder
    {ending : Except Failure (PollOutcome α)}
    (hcrash : Crashes ending) :
    ¬EndsInOrder ending := by
  rintro hordered
  obtain ⟨failure, rfl, hfailure⟩ := hcrash
  cases hordered with
  | raised hchecks => exact hfailure.not_isOfChecks hchecks

theorem answered_call_cons_iff
    {request : Request} {answer : Except Failure Response} :
    Answered (⟨.call request, answer⟩ :: events) ↔
      (∃ response, answer = .ok response) ∧ Answered events := by
  unfold Answered
  rw [exchanges_call_cons, List.forall_mem_cons]

theorem Answered.of_served
    {serve : Request → Response}
    (hserved : Served serve events) :
    Answered events :=
  fun exchange hmem => ⟨_, hserved exchange hmem⟩

/-- The attempt has crashed after an unreadable answer, or it has ended in order without one. -/
def Fits
    (unreadable : Exchange → Prop)
    (asked : List Exchange)
    (ending : Except Failure (PollOutcome α)) : Prop :=
  ((∃ exchange ∈ asked, unreadable exchange) ∧ Crashes ending) ∨
    ((∀ exchange ∈ asked, ¬unreadable exchange) ∧ EndsInOrder ending)

/-- Every answered run of the attempt crashes in one case.  In every other case it crashes after an
unreadable answer only. -/
def StumblesWhen
    (condition : Prop)
    (unreadable : Exchange → Prop)
    (attempt : Action (PollOutcome α)) : Prop :=
  ∀ ⦃before after : Session⦄ ⦃events : List Event⦄ ⦃ending : Except Failure (PollOutcome α)⦄,
    attempt.Runs before events ending after → Answered events →
      (condition → Crashes ending) ∧ (¬condition → Fits unreadable (exchanges events) ending)

theorem fits_nil
    {ending : Except Failure (PollOutcome α)}
    (hordered : EndsInOrder ending) :
    Fits unreadable [] ending :=
  Or.inr ⟨List.forall_mem_nil _, hordered⟩

theorem StumblesWhen.congr
    {attempt : Action (PollOutcome α)}
    (hattempt : StumblesWhen condition unreadable attempt)
    (hiff : condition ↔ other) :
    StumblesWhen other unreadable attempt := by
  intro before after events ending hrun hanswered
  obtain ⟨hcrash, hfits⟩ := hattempt hrun hanswered
  exact ⟨fun hother => hcrash (hiff.mpr hother),
    fun hnot => hfits fun hcondition => hnot (hiff.mp hcondition)⟩

theorem stumblesWhen_pure
    {outcome : PollOutcome α}
    (hordered : EndsInOrder (.ok outcome)) :
    StumblesWhen False unreadable (pure outcome : Action (PollOutcome α)) := by
  intro before after events ending hrun _
  obtain ⟨rfl, rfl, _⟩ := runs_pure_iff.mp hrun
  exact ⟨False.elim, fun _ => fits_nil hordered⟩

theorem stumblesWhen_liftM_bind
    {known : Except Failure β} {next : β → Action (PollOutcome α)} {later : β → Prop}
    (hknown : CrashesWhen condition known)
    (hnext : ∀ value, known = .ok value → StumblesWhen (later value) unreadable (next value)) :
    StumblesWhen (condition ∨ ∃ value, known = .ok value ∧ later value) unreadable
      (liftM known >>= next) := by
  intro before after events ending hrun hanswered
  rcases runs_liftM_bind_iff.mp hrun with ⟨value, hvalue, hrest⟩ | ⟨failure, hfailed, rfl, rfl, _⟩
  · obtain ⟨hcrash, hfits⟩ := hnext value hvalue hrest hanswered
    constructor
    · rintro (hcondition | ⟨other, hother, hlater⟩)
      · obtain ⟨failure, hfailed, _⟩ := hknown.crash hcondition
        cases hvalue.symm.trans hfailed
      · cases hvalue.symm.trans hother
        exact hcrash hlater
    · exact fun hnot => hfits fun hlater => hnot (Or.inr ⟨value, hvalue, hlater⟩)
  · constructor
    · rintro (hcondition | ⟨other, hother, _⟩)
      · obtain ⟨known, hcrashed, hcrash⟩ := hknown.crash hcondition
        cases hfailed.symm.trans hcrashed
        exact crashes_error hcrash
      · cases hfailed.symm.trans hother
    · exact fun hnot => fits_nil (.raised (hknown.checked (not_or.mp hnot).1 failure hfailed))

/-- What follows on a reading never crashes by itself. -/
theorem stumblesWhen_liftM_bind_of_stumbles
    {known : Except Failure β} {next : β → Action (PollOutcome α)}
    (hknown : CrashesWhen condition known)
    (hnext : ∀ value, known = .ok value → StumblesWhen False unreadable (next value)) :
    StumblesWhen condition unreadable (liftM known >>= next) :=
  (stumblesWhen_liftM_bind hknown hnext).congr (by simp)

/-- What follows on a reading that never crashes. -/
theorem stumblesWhen_checked_bind
    {known : Except Failure β} {next : β → Action (PollOutcome α)}
    (hknown : FailsWithin Failure.IsOfChecks known)
    (hnext : ∀ value, known = .ok value → StumblesWhen False unreadable (next value)) :
    StumblesWhen False unreadable (liftM known >>= next) :=
  stumblesWhen_liftM_bind_of_stumbles (crashesWhen_false hknown) hnext

theorem stumblesWhen_known_bind
    {known : Except Failure β} {next : β → Action (PollOutcome α)} {value : β}
    (hknown : known = .ok value)
    (hnext : StumblesWhen condition unreadable (next value)) :
    StumblesWhen condition unreadable (liftM known >>= next) := by
  intro before after events ending hrun hanswered
  rcases runs_liftM_bind_iff.mp hrun with ⟨first, hfirst, hrest⟩ | ⟨failure, hfailed, _⟩
  · cases hknown.symm.trans hfirst
    exact hnext hrest hanswered
  · cases hknown.symm.trans hfailed

/-- A request with an unreadable answer makes the rest of the attempt crash. -/
theorem stumblesWhen_call_bind
    {request : Request} {next : Response → Action (PollOutcome α)}
    (hnext : ∀ response,
      StumblesWhen (unreadable ⟨request, .ok response⟩) unreadable (next response)) :
    StumblesWhen False unreadable (call request >>= next) := by
  intro before after events ending hrun hanswered
  refine ⟨False.elim, fun _ => ?_⟩
  rcases runs_call_bind_iff.mp hrun with ⟨response, rest, rfl, hrest⟩ | ⟨failure, rfl, _, _⟩
  · obtain ⟨hcrash, hfits⟩ := hnext response hrest (answered_call_cons_iff.mp hanswered).2
    by_cases hunreadable : unreadable ⟨request, .ok response⟩
    · exact Or.inl ⟨⟨_, List.mem_cons_self, hunreadable⟩, hcrash hunreadable⟩
    · refine (hfits hunreadable).imp (And.imp_left ?_) (And.imp_left ?_)
      · rintro ⟨exchange, hmem, hexchange⟩
        exact ⟨exchange, List.mem_cons_of_mem _ hmem, hexchange⟩
      · exact fun hall => List.forall_mem_cons.mpr ⟨hunreadable, hall⟩
  · obtain ⟨⟨response, hanswer⟩, _⟩ := answered_call_cons_iff.mp hanswered
    cases hanswer

/-- An answer that is refused is not looked into. -/
theorem stumblesWhen_unless
    {guard : Prop} [Decidable guard] {refusal : PollOutcome α} {next : Action (PollOutcome α)}
    (hrefusal : EndsInOrder (.ok refusal))
    (hnext : ¬guard → StumblesWhen condition unreadable next) :
    StumblesWhen (¬guard ∧ condition) unreadable
      (if guard then (pure refusal : Action (PollOutcome α)) else next) := by
  by_cases hguard : guard
  · rw [if_pos hguard]
    exact (stumblesWhen_pure hrefusal).congr (by simp [hguard])
  · rw [if_neg hguard]
    exact (hnext hguard).congr (by simp [hguard])

/-- An attempt ends in order exactly when it is not the case in which it crashes and it got no
unreadable answer.  It crashes otherwise. -/
theorem StumblesWhen.ends_iff
    {attempt : Action (PollOutcome α)} {before after : Session}
    {ending : Except Failure (PollOutcome α)}
    (hstumbles : StumblesWhen condition unreadable attempt)
    (hrun : attempt.Runs before events ending after)
    (hanswered : Answered events) :
    (EndsInOrder ending ↔
        ¬condition ∧ ∀ exchange ∈ exchanges events, ¬unreadable exchange) ∧
      (¬EndsInOrder ending → Crashes ending) := by
  obtain ⟨hcrashes, hfits⟩ := hstumbles hrun hanswered
  by_cases hcondition : condition
  · have hcrash := hcrashes hcondition
    exact ⟨⟨fun hordered => absurd hordered hcrash.not_endsInOrder,
      fun hnot => absurd hcondition hnot.1⟩, fun _ => hcrash⟩
  rcases hfits hcondition with ⟨⟨exchange, hmem, hunreadable⟩, hcrash⟩ | ⟨hreadable, hordered⟩
  · exact ⟨⟨fun hordered => absurd hordered hcrash.not_endsInOrder,
      fun hall => absurd hunreadable (hall.2 exchange hmem)⟩, fun _ => hcrash⟩
  · exact ⟨⟨fun _ => ⟨hcondition, hreadable⟩, fun _ => hordered⟩,
      fun hnot => absurd hordered hnot⟩

end Attempts

/-- The exchange ended with success, and the body of the answer is nested too deeply or malformed.
-/
def Exchange.IsUnreadable
    (malformed : Json.Members → Prop)
    (exchange : Exchange) : Prop :=
  ∃ response,
    exchange.answer = .ok response ∧ response.ok = true ∧ response.IsUnreadable malformed

section Bodies

variable {α : Type} {unreadable : Exchange → Prop}

theorem isUnreadable_ok_iff
    {malformed : Json.Members → Prop} {request : Request} {response : Response} :
    Exchange.IsUnreadable malformed ⟨request, .ok response⟩ ↔
      response.ok = true ∧ response.IsUnreadable malformed := by
  constructor
  · rintro ⟨_, hanswer, hok, hunreadable⟩
    cases hanswer
    exact ⟨hok, hunreadable⟩
  · rintro ⟨hok, hunreadable⟩
    exact ⟨response, rfl, hok, hunreadable⟩

theorem stumblesWhen_object_bind
    (malformed : Json.Members → Prop)
    {response : Response} {next : Json.Members → Action (PollOutcome α)}
    (hnext : ∀ body, StumblesWhen (malformed body) unreadable (next body)) :
    StumblesWhen (response.IsUnreadable malformed) unreadable (liftM response.object >>= next) :=
  stumblesWhen_liftM_bind (crashesWhen_object response) fun body _ => hnext body

end Bodies

end RestartCheck
