import RestartCheck.Proofs.Effect.Runs
import RestartCheck.Proofs.Effect.Trace

/-!
# Runs against a service

A service that gives an answer to every request.  What holds of every run of an action against it
says nothing when there is no such run, so that there is one is a property of its own.  It passes
from the parts of a sequence to the sequence.

When the answers decide the result of an action, the action *gives* this result against the service.

**Results.**
* `finishes_bind`, `finishes_call`: actions that have a run against every service.
* `gives_liftM_bind`, `gives_call_bind`: actions with one result against a service.
-/

namespace RestartCheck
namespace Action

open Trace

variable {α β : Type}

/-- Every request was answered as the service answers it. -/
def Served
    (serve : Request → Response)
    (events : List Event) : Prop :=
  ∀ exchange ∈ exchanges events, exchange.answer = .ok (serve exchange.request)

section Rules

variable {serve : Request → Response} {front back events : List Event}

theorem served_nil : Served serve [] := by
  rintro exchange ⟨⟩

theorem served_append_iff :
    Served serve (front ++ back) ↔ Served serve front ∧ Served serve back := by
  unfold Served
  rw [exchanges_append, List.forall_mem_append]

theorem served_call_cons_iff
    {request : Request} {answer : Except Failure Response} :
    Served serve (⟨.call request, answer⟩ :: back) ↔
      answer = .ok (serve request) ∧ Served serve back := by
  unfold Served
  rw [exchanges_call_cons, List.forall_mem_cons]

/-! ## There is a run -/

/-- From every memory there is a run against the service. -/
def Finishes
    (serve : Request → Response)
    (action : Action α) : Prop :=
  ∀ before, ∃ events result after, action.Runs before events result after ∧ Served serve events

theorem finishes_ofExcept
    (known : Except Failure α) :
    Finishes serve (ofExcept known) :=
  fun before => ⟨[], known, before, runs_ofExcept_iff.mpr ⟨rfl, rfl, rfl⟩, served_nil⟩

theorem finishes_pure
    (value : α) :
    Finishes serve (pure value : Action α) :=
  fun before => ⟨[], .ok value, before, runs_pure_iff.mpr ⟨rfl, rfl, rfl⟩, served_nil⟩

theorem finishes_call
    (request : Request) :
    Finishes serve (call request) := by
  intro before
  refine ⟨[⟨.call request, .ok (serve request)⟩], _, before, runs_call_iff.mpr ⟨rfl, rfl⟩, ?_⟩
  exact served_call_cons_iff.mpr ⟨rfl, served_nil⟩

theorem finishes_note
    (level : LogLevel)
    (event : String)
    (fields : LogFields) :
    Finishes serve (note level event fields) :=
  fun before => ⟨_, _, before, runs_note_iff.mpr ⟨rfl, rfl, rfl⟩, served_nil⟩

theorem finishes_bind
    {action : Action α} {next : α → Action β}
    (haction : Finishes serve action)
    (hnext : ∀ value, Finishes serve (next value)) :
    Finishes serve (action >>= next) := by
  intro before
  obtain ⟨front, result, middle, hfront, hserved⟩ := haction before
  cases result with
  | ok value =>
      obtain ⟨back, outcome, after, hback, hrest⟩ := hnext value middle
      exact ⟨front ++ back, outcome, after,
        runs_bind_iff.mpr (Or.inl ⟨value, middle, front, back, rfl, hfront, hback⟩),
        served_append_iff.mpr ⟨hserved, hrest⟩⟩
  | error failure =>
      exact ⟨front, .error failure, middle,
        runs_bind_iff.mpr (Or.inr ⟨failure, rfl, hfront⟩), hserved⟩

theorem finishes_attempt
    {action : Action α}
    (haction : Finishes serve action) :
    Finishes serve (attempt action) := by
  intro before
  obtain ⟨events, result, after, hrun, hserved⟩ := haction before
  exact ⟨events, .ok result, after, runs_attempt_iff.mpr ⟨result, rfl, hrun⟩, hserved⟩

/-! ## One result -/

/-- Every run against the service has the result. -/
def Gives
    (serve : Request → Response)
    (action : Action α)
    (expected : Except Failure α) : Prop :=
  ∀ ⦃before after : Session⦄ ⦃events : List Event⦄ ⦃result : Except Failure α⦄,
    action.Runs before events result after → Served serve events → result = expected

theorem gives_pure
    (value : α) :
    Gives serve (pure value : Action α) (.ok value) :=
  fun _ _ _ _ hrun _ => (runs_pure_iff.mp hrun).2.1

theorem gives_liftM_bind
    {known : Except Failure α} {next : α → Action β} {expected : α → Except Failure β}
    (hnext : ∀ value, known = .ok value → Gives serve (next value) (expected value)) :
    Gives serve (liftM known >>= next) (known >>= expected) := by
  intro before after events result hrun hserved
  rcases runs_liftM_bind_iff.mp hrun with ⟨value, rfl, hrest⟩ | ⟨failure, rfl, _, rfl, _⟩
  · exact hnext value rfl hrest hserved
  · rfl

theorem gives_known_bind
    {known : Except Failure α} {next : α → Action β} {value : α} {expected : Except Failure β}
    (hknown : known = .ok value)
    (hnext : Gives serve (next value) expected) :
    Gives serve (liftM known >>= next) expected := by
  intro before after events result hrun hserved
  rcases runs_liftM_bind_iff.mp hrun with ⟨first, hfirst, hrest⟩ | ⟨failure, hfailed, _⟩
  · cases hknown.symm.trans hfirst
    exact hnext hrest hserved
  · cases hknown.symm.trans hfailed

theorem gives_call_bind
    {request : Request} {next : Response → Action β} {expected : Except Failure β}
    (hnext : Gives serve (next (serve request)) expected) :
    Gives serve (call request >>= next) expected := by
  intro before after events result hrun hserved
  rcases runs_call_bind_iff.mp hrun with ⟨response, rest, rfl, hrest⟩ | ⟨failure, rfl, _, _⟩
  · obtain ⟨hanswer, hbehind⟩ := served_call_cons_iff.mp hserved
    cases hanswer
    exact hnext hrest hbehind
  · obtain ⟨hanswer, _⟩ := served_call_cons_iff.mp hserved
    cases hanswer

end Rules

end Action
end RestartCheck
