import RestartCheck.Proofs.Effect.Runs
import RestartCheck.Proofs.Effect.Trace

/-!
# The service out of reach

A request may fail to reach the service.  Inside of a poll it is tried again: the poll reads the
clock, tells that it goes on, and sleeps.  A request that fails without being tried again was either
sent outside of any poll, or in the last attempt of a poll whose time is up.

Events are *unbroken* when every request that fails in this way is tried again.  An action
*surfaces* outages when its runs either are unbroken or end with the service reported out of reach.

**Results.**
* `Unbroken.append`: events that follow on one another are unbroken if each of them are.
* `Interrupted.append`, `Surfaced.append`: what an outage does to a sequence.
-/

namespace RestartCheck

/-- A request that did not reach the service. -/
def Event.isOutage : Event → Bool
  | ⟨.call _, .error (.unreachable _)⟩ => true
  | _ => false

theorem isOutage_call_iff
    {request : Request} {answer : Except Failure Response} :
    Event.isOutage ⟨.call request, answer⟩ = true ↔
      ∃ cause, answer = .error (.unreachable cause) := by
  cases answer with
  | ok response => simp [Event.isOutage]
  | error failure => cases failure <;> simp [Event.isOutage]

namespace Trace

/-- A poll goes on: the clock is read, the entry about it is written, and the poll sleeps. -/
def goesOn : List Event → Bool
  | ⟨.now, _⟩ :: ⟨.log entry, _⟩ :: ⟨.sleep _, _⟩ :: _ =>
      match entry.event with
      | .string event => event == "poll_not_converged"
      | _ => false
  | _ => false

/-- Every request that does not reach the service is tried again by the poll that sent it. -/
def Unbroken : List Event → Prop :=
  Followed (Event.isOutage · = true) (goesOn · = true)

instance : DecidablePred Unbroken :=
  inferInstanceAs (DecidablePred (Followed _ _))

theorem goesOn_append
    {rest : List Event}
    (hgoes : goesOn rest = true)
    (more : List Event) :
    goesOn (rest ++ more) = true := by
  unfold goesOn at hgoes
  split at hgoes
  · exact hgoes
  · cases hgoes

theorem Unbroken.append
    {front back : List Event}
    (hfront : Unbroken front)
    (hback : Unbroken back) :
    Unbroken (front ++ back) :=
  Followed.append hfront (fun _ hgoes => goesOn_append hgoes back) hback

theorem unbroken_flatMap
    {ι : Type} {items : List ι} {events : ι → List Event}
    (hitem : ∀ item ∈ items, Unbroken (events item)) :
    Unbroken (items.flatMap events) := by
  induction items with
  | nil => trivial
  | cons item rest ih =>
      rw [List.forall_mem_cons] at hitem
      rw [List.flatMap_cons]
      exact hitem.1.append (ih hitem.2)

end Trace

namespace Action

open Trace

variable {α : Type}

/-- The failure that reports the service out of reach. -/
def IsOutage (failure : Option Failure) : Prop :=
  ∃ cause, failure = some (.unreachable cause)

/-- What has become of the requests that did not reach the service: the first of them has ended the
run, and is what the run has ended with. -/
def Interrupted
    (events : List Event)
    (failure : Option Failure) : Prop :=
  Followed (Event.isOutage · = true) (fun rest => rest = [] ∧ IsOutage failure) events

/-- Each request that did not reach the service was tried again, or the run has ended with the
service out of reach. -/
def Surfaced
    (events : List Event)
    (failure : Option Failure) : Prop :=
  Unbroken events ∨ IsOutage failure

section Endings

variable {front back events : List Event} {failure : Option Failure}

theorem interrupted_of_forall_not
    (hnone : ∀ event ∈ events, event.isOutage = false) :
    Interrupted events failure :=
  followed_of_forall_not fun event hmem => by simp [hnone event hmem]

/-- A run that has not ended with an outage has met none. -/
theorem Interrupted.forget
    (hinterrupted : Interrupted events failure)
    (hother : ¬IsOutage failure)
    (later : Option Failure) :
    Interrupted events later :=
  hinterrupted.mono fun _ hend => absurd hend.2 hother

theorem Interrupted.append
    (hfront : Interrupted front none)
    (hback : Interrupted back failure) :
    Interrupted (front ++ back) failure := by
  refine Followed.append hfront ?_ hback
  -- A part that succeeds contains no outage at all.
  rintro rest ⟨_, cause, hcause⟩
  cases hcause

theorem Surfaced.forget
    (hsurfaced : Surfaced events failure)
    (hother : ¬IsOutage failure)
    (later : Option Failure) :
    Surfaced events later :=
  Or.inl (hsurfaced.resolve_right hother)

theorem Surfaced.append
    (hfront : Surfaced front none)
    (hback : Surfaced back failure) :
    Surfaced (front ++ back) failure := by
  rcases hfront with hfront | ⟨cause, hcause⟩
  · exact hback.imp_left hfront.append
  · cases hcause

end Endings

/-- Every run of the action is unbroken, or ends with the service out of reach. -/
def Surfaces (action : Action α) : Prop :=
  ∀ ⦃before after : Session⦄ ⦃events : List Event⦄ ⦃result : Except Failure α⦄,
    action.Runs before events result after → Surfaced events (failure? result)

end Action
end RestartCheck
