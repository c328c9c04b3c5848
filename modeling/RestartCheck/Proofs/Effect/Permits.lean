import RestartCheck.Proofs.Effect.Runs
import RestartCheck.Proofs.Effect.Trace

/-!
# Requests that earlier exchanges permit

What an action may send can depend on what has been exchanged before.  A permission says which
requests are allowed after given exchanges.  More exchanges never allow less, so the requests of a
sequence are permitted as soon as those of its parts are, each part by itself.

**Results.**
* `Permission.covers_after_iff`, `Permission.Covers.append`: the requests of a sequence.
* `Permission.Covers.allows`: each request is allowed by what stands before it.
* `Sends.not_mem`: a request outside of a bound is in no run.
-/

namespace RestartCheck

/-- The request asks for something and changes nothing. -/
def Request.IsRead (request : Request) : Prop :=
  request.method = "GET"

namespace Action

open Trace

variable {α : Type}

@[simp] theorem exchanges_noted_cons
    (session : Session)
    (level : LogLevel)
    (event : String)
    (fields : LogFields)
    (rest : List Event) :
    exchanges (noted session level event fields :: rest) = exchanges rest :=
  rfl

/-- The requests that are allowed after given exchanges. -/
structure Permission where
  Allows : List Exchange → Request → Prop
  mono : ∀ {front more : List Exchange} {request : Request},
    front ⊆ more → Allows front request → Allows more request

namespace Permission

variable {permission : Permission} {earlier more front back : List Exchange}
  {exchange : Exchange}

/-- Each request is allowed by the exchanges before it, which begin with the earlier ones. -/
def Covers
    (permission : Permission)
    (earlier : List Exchange) : List Exchange → Prop
  | [] => True
  | exchange :: rest =>
      permission.Allows earlier exchange.request ∧ permission.Covers (earlier ++ [exchange]) rest

theorem covers_append_iff :
    permission.Covers earlier (front ++ back) ↔
      permission.Covers earlier front ∧ permission.Covers (earlier ++ front) back := by
  induction front generalizing earlier with
  | nil => simp [Covers]
  | cons exchange rest ih => simp [Covers, ih, and_assoc]

/-- What is permitted after some exchanges is permitted after more of them. -/
theorem Covers.mono
    (hcovers : permission.Covers earlier back)
    (hmore : earlier ⊆ more) :
    permission.Covers more back := by
  induction back generalizing earlier more with
  | nil => trivial
  | cons exchange rest ih =>
      have hlonger : earlier ++ [exchange] ⊆ more ++ [exchange] :=
        List.append_subset.mpr
          ⟨List.subset_append_of_subset_left _ hmore, List.subset_append_right _ _⟩
      exact ⟨permission.mono hmore hcovers.1, ih hcovers.2 hlonger⟩

theorem Covers.append
    (hfront : permission.Covers [] front)
    (hback : permission.Covers [] back) :
    permission.Covers [] (front ++ back) :=
  covers_append_iff.mpr ⟨hfront, hback.mono (List.nil_subset _)⟩

/-- Each request is allowed by what stands before it. -/
theorem Covers.allows
    (hcovers : permission.Covers [] (front ++ exchange :: back)) :
    permission.Allows front exchange.request :=
  (covers_append_iff.mp hcovers).2.1

/-- What is allowed when the exchanges go before. -/
def after
    (permission : Permission)
    (earlier : List Exchange) : Permission where
  Allows front request := permission.Allows (earlier ++ front) request
  mono := fun hmore => permission.mono
    (List.append_subset.mpr ⟨List.subset_append_left _ _,
      List.subset_append_of_subset_right _ hmore⟩)

theorem covers_after_iff :
    (permission.after earlier).Covers more back ↔ permission.Covers (earlier ++ more) back := by
  induction back generalizing more with
  | nil => exact Iff.rfl
  | cons exchange rest ih =>
      rw [Covers, Covers, ih, List.append_assoc]
      exact Iff.rfl

/-- The permission to send anything. -/
def all : Permission where
  Allows _ _ := True
  mono := fun _ hallows => hallows

/-- The permission that takes no account of what has been exchanged. -/
def only (allowed : Request → Prop) : Permission where
  Allows _ request := allowed request
  mono := fun _ hallows => hallows

theorem forall_of_covers_only
    {allowed : Request → Prop}
    (hcovers : (only allowed).Covers earlier back) :
    ∀ exchange ∈ back, allowed exchange.request := by
  induction back generalizing earlier with
  | nil => exact List.forall_mem_nil _
  | cons exchange rest ih => exact List.forall_mem_cons.mpr ⟨hcovers.1, ih hcovers.2⟩

end Permission

/-- In every run each request is allowed by the exchanges before it. -/
def Permits
    (permission : Permission)
    (action : Action α) : Prop :=
  ∀ ⦃before after : Session⦄ ⦃events : List Event⦄ ⦃result : Except Failure α⦄,
    action.Runs before events result after → permission.Covers [] (exchanges events)

/-- Every request of every run is allowed. -/
def Sends
    (allowed : Request → Prop)
    (action : Action α) : Prop :=
  ∀ ⦃before after : Session⦄ ⦃events : List Event⦄ ⦃result : Except Failure α⦄,
    action.Runs before events result after →
      ∀ exchange ∈ exchanges events, allowed exchange.request

theorem Sends.not_mem
    {allowed : Request → Prop} {action : Action α} {before after : Session} {events : List Event}
    {result : Except Failure α} {exchange : Exchange}
    (hsends : Sends allowed action)
    (hrun : action.Runs before events result after)
    (hforbidden : ¬allowed exchange.request) :
    exchange ∉ exchanges events :=
  fun hmem => hforbidden (hsends hrun exchange hmem)

end Action
end RestartCheck
