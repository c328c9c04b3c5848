import RestartCheck.Proofs.Effect.Context
import RestartCheck.Proofs.Effect.Failures
import RestartCheck.Proofs.Effect.Outage
import RestartCheck.Proofs.Effect.Permits

/-!
# Conduct of actions

A *conduct* bounds what an action does in all of its runs, whatever the answers are: the requests
that it sends, the failures that it ends with, and what an outage does to it; and it demands that
the action keeps the bound context.  An action that is composed of actions that conform to a conduct
conforms to it as well.  So what remains to be shown of a program are the places at which it sends a
request, fails by itself, or goes on after a failure.

**Results.**
* `Conduct.Kept.append`: what follows on a part may rely on the exchanges of that part.
* `conforms_bind_of_runs`, `conforms_attempt_bind`, `conforms_each`: composed actions.
* `Conforms.keepsContext`, `Conforms.permits`, `Conforms.raises`, `Conforms.surfaces`: what an
  action that conforms does in each respect.
-/

namespace RestartCheck
namespace Action

open Trace

variable {α β : Type}

/-- What an outage has to do to an action. -/
inductive OutageRule where
  /-- It ends the action at once. -/
  | endsAtOnce
  /-- It is what the action ends with, unless the request is tried again. -/
  | shows
  | free
deriving DecidableEq

def OutageRule.Holds : OutageRule → List Event → Option Failure → Prop
  | .endsAtOnce => Interrupted
  | .shows => Surfaced
  | .free => fun _ _ => True

namespace OutageRule

variable {rule : OutageRule} {front back events : List Event} {failure : Option Failure}

theorem holds_of_forall_not
    (hnone : ∀ event ∈ events, event.isOutage = false) :
    rule.Holds events failure := by
  cases rule with
  | endsAtOnce => exact interrupted_of_forall_not hnone
  | shows => exact Or.inl (followed_of_forall_not fun event hmem => by simp [hnone event hmem])
  | free => trivial

theorem Holds.append
    (hfront : rule.Holds front none)
    (hback : rule.Holds back failure) :
    rule.Holds (front ++ back) failure := by
  cases rule with
  | endsAtOnce => exact Interrupted.append hfront hback
  | shows => exact Surfaced.append hfront hback
  | free => trivial

theorem Holds.forget
    (hholds : rule.Holds events failure)
    (hother : ¬IsOutage failure)
    (later : Option Failure) :
    rule.Holds events later := by
  cases rule with
  | endsAtOnce => exact Interrupted.forget hholds hother later
  | shows => exact Surfaced.forget hholds hother later
  | free => trivial

/-- A request that does not reach the service ends the request with this failure. -/
theorem holds_call
    (request : Request)
    (answer : Except Failure Response) :
    rule.Holds [⟨.call request, answer⟩] (failure? answer) := by
  have hends : Event.isOutage ⟨.call request, answer⟩ = true → IsOutage (failure? answer) := by
    intro houtage
    obtain ⟨cause, rfl⟩ := isOutage_call_iff.mp houtage
    exact ⟨cause, rfl⟩
  cases rule with
  | endsAtOnce => exact ⟨fun houtage => ⟨rfl, hends houtage⟩, trivial⟩
  | shows =>
      by_cases houtage : Event.isOutage ⟨.call request, answer⟩ = true
      · exact Or.inr (hends houtage)
      · exact Or.inl ⟨fun hkind => absurd hkind houtage, trivial⟩
  | free => trivial

end OutageRule

/-- Bounds on what an action does.  The failures that the service brings about are always
allowed. -/
structure Conduct where
  permission : Permission
  Fails : Failure → Prop
  ofService : ∀ ⦃failure : Failure⦄, failure.IsOfService → Fails failure
  outage : OutageRule

namespace Conduct

/-- The conduct of what follows on the exchanges. -/
def after
    (conduct : Conduct)
    (earlier : List Exchange) : Conduct :=
  { conduct with permission := conduct.permission.after earlier }

/-- The conduct with one more failure allowed. -/
def allowing
    (conduct : Conduct)
    (failure : Failure) : Conduct :=
  { conduct with
    Fails := fun known => conduct.Fails known ∨ known = failure
    ofService := fun _ hservice => Or.inl (conduct.ofService hservice) }

/-- The conduct with another rule for outages. -/
def withOutage
    (conduct : Conduct)
    (rule : OutageRule) : Conduct :=
  { conduct with outage := rule }

/-- The conduct that bounds nothing but the requests. -/
def sending (allowed : Request → Prop) : Conduct where
  permission := .only allowed
  Fails _ := True
  ofService := fun _ _ => trivial
  outage := .free

/-- The conduct that demands nothing but that outages show. -/
def showing : Conduct where
  permission := .all
  Fails _ := True
  ofService := fun _ _ => trivial
  outage := .shows

/-- A run keeps to the conduct. -/
structure Kept
    (conduct : Conduct)
    (before : Session)
    (events : List Event)
    (failure : Option Failure)
    (after : Session) : Prop where
  context : after.context = before.context
  logged : ∀ entry ∈ logged events, entry.context = before.context
  permitted : conduct.permission.Covers [] (exchanges events)
  failed : ∀ known, failure = some known → conduct.Fails known ∨ CameIn known events
  outage : conduct.outage.Holds events failure

variable {conduct : Conduct} {before middle last : Session} {events front back : List Event}
  {failure : Option Failure}

/-- Nothing has been asked. -/
theorem kept_nil
    (hcontext : last.context = before.context)
    (hfailed : ∀ known, failure = some known → conduct.Fails known) :
    conduct.Kept before [] failure last where
  context := hcontext
  logged := List.forall_mem_nil _
  permitted := trivial
  failed := fun known hknown => Or.inl (hfailed known hknown)
  outage := OutageRule.holds_of_forall_not (List.forall_mem_nil _)

/-- What follows on a part may rely on the exchanges of that part. -/
theorem Kept.append
    (hfront : conduct.Kept before front none middle)
    (hback : (conduct.after (exchanges front)).Kept middle back failure last) :
    conduct.Kept before (front ++ back) failure last where
  context := hback.context.trans hfront.context
  logged := by
    rw [logged_append, List.forall_mem_append]
    exact ⟨hfront.logged, fun entry hmem => (hback.logged entry hmem).trans hfront.context⟩
  permitted := by
    rw [exchanges_append, Permission.covers_append_iff]
    have hlater := Permission.covers_after_iff.mp hback.permitted
    rw [List.append_nil] at hlater
    exact ⟨hfront.permitted, hlater⟩
  failed := by
    intro known hknown
    refine (hback.failed known hknown).imp_right fun hcame => hcame.of_subset ?_
    rw [exchanges_append]
    exact List.subset_append_right _ _
  outage := hfront.outage.append hback.outage

/-- What is kept before any exchange is kept behind some. -/
theorem Kept.after
    (hkept : conduct.Kept before events failure last)
    (earlier : List Exchange) :
    (conduct.after earlier).Kept before events failure last where
  context := hkept.context
  logged := hkept.logged
  permitted := Permission.covers_after_iff.mpr (hkept.permitted.mono (List.nil_subset _))
  failed := hkept.failed
  outage := hkept.outage

end Conduct

/-- Every run of the action keeps to the conduct. -/
def Conforms
    (conduct : Conduct)
    (action : Action α) : Prop :=
  ∀ ⦃before after : Session⦄ ⦃events : List Event⦄ ⦃result : Except Failure α⦄,
    action.Runs before events result after → conduct.Kept before events (failure? result) after

/-! ## Actions that conform -/

section Rules

variable {conduct : Conduct}

theorem conforms_pure
    (value : α) :
    Conforms conduct (pure value : Action α) := by
  intro before after events result hrun
  obtain ⟨rfl, rfl, rfl⟩ := runs_pure_iff.mp hrun
  exact Conduct.kept_nil rfl fun _ hfailed => by cases hfailed

theorem conforms_stuck : Conforms conduct (stuck : Action α) :=
  fun _ _ _ _ hrun => absurd hrun not_runs_stuck

theorem conforms_ofExcept
    {known : Except Failure α}
    (hknown : FailsWithin conduct.Fails known) :
    Conforms conduct (ofExcept known) := by
  intro before after events result hrun
  obtain ⟨rfl, rfl, rfl⟩ := runs_ofExcept_iff.mp hrun
  exact Conduct.kept_nil rfl fun failure hfailed => hknown failure (failure?_eq_some_iff.mp hfailed)

theorem conforms_liftM
    {known : Except Failure α}
    (hknown : FailsWithin conduct.Fails known) :
    Conforms conduct (liftM known : Action α) :=
  conforms_ofExcept hknown

/-- An answer of the service is judged. -/
theorem conforms_judging
    {known : Except Failure α}
    (hknown : FailsWithin Failure.IsOfService known) :
    Conforms conduct (liftM known : Action α) :=
  conforms_liftM (hknown.mono conduct.ofService)

theorem conforms_fail
    {failure : Failure}
    (hallowed : conduct.Fails failure) :
    Conforms conduct (fail failure : Action α) :=
  conforms_ofExcept (failsWithin_error hallowed)

theorem conforms_query
    {question : Query}
    (hcall : ∀ request, question ≠ .call request)
    (hlog : ∀ entry, question ≠ .log entry) :
    Conforms conduct (query question) := by
  intro before after events result hrun
  obtain ⟨answer, rfl, rfl, rfl⟩ := runs_query_iff.mp hrun
  cases question with
  | call request => exact absurd rfl (hcall request)
  | log entry => exact absurd rfl (hlog entry)
  | _ =>
      exact ⟨rfl, List.forall_mem_nil _, trivial, fun _ hfailed => (by cases hfailed),
        OutageRule.holds_of_forall_not (by simp [Event.isOutage])⟩

theorem conforms_call
    {request : Request}
    (hallowed : conduct.permission.Allows [] request) :
    Conforms conduct (call request) := by
  intro before after events result hrun
  obtain ⟨rfl, rfl⟩ := runs_call_iff.mp hrun
  refine ⟨rfl, List.forall_mem_nil _, ⟨hallowed, trivial⟩, fun failure hfailed => Or.inr ?_,
    OutageRule.holds_call request result⟩
  exact ⟨_, List.mem_cons_self, failure?_eq_some_iff.mp hfailed⟩

theorem conforms_note
    (level : LogLevel)
    (event : String)
    (fields : LogFields) :
    Conforms conduct (note level event fields) := by
  intro before after events result hrun
  obtain ⟨rfl, rfl, rfl⟩ := runs_note_iff.mp hrun
  refine ⟨rfl, ?_, trivial, fun _ hfailed => (by cases hfailed),
    OutageRule.holds_of_forall_not (by simp [noted, Event.isOutage])⟩
  rw [logged_noted_cons, List.forall_mem_cons]
  exact ⟨rfl, List.forall_mem_nil _⟩

/-- An entry that shows a value may be refused. -/
theorem conforms_noteShowing
    (level : LogLevel)
    (event : String)
    (fields : LogFields)
    (name : String)
    (value : Observed) :
    Conforms conduct (noteShowing level event fields name value) := by
  intro before after events result hrun
  rcases runs_noteShowing_iff.mp hrun with ⟨_, rfl, rfl, rfl⟩ | ⟨obstacle, _, rfl, rfl, rfl⟩
  · exact conforms_note level event _ (runs_note_iff.mpr ⟨rfl, rfl, rfl⟩)
  · refine Conduct.kept_nil rfl fun failure hfailed => ?_
    cases hfailed
    exact conduct.ofService (Failure.isOfService_ofObstacle obstacle)

theorem conforms_modify
    {change : Session → Session}
    (hchange : ∀ session, (change session).context = session.context) :
    Conforms conduct (modify change : Action Unit) := by
  intro before after events result hrun
  obtain ⟨rfl, rfl, rfl⟩ := runs_modify_iff.mp hrun
  exact Conduct.kept_nil (hchange before) fun _ hfailed => by cases hfailed

theorem conforms_get_bind
    {next : Session → Action β}
    (hnext : ∀ session, Conforms conduct (next session)) :
    Conforms conduct (get >>= next : Action β) :=
  fun before _ _ _ hrun => hnext before (runs_get_bind_iff.mp hrun)

/-! ## Composed actions -/

/-- What conforms before any exchange conforms behind some. -/
theorem Conforms.after
    {action : Action α}
    (haction : Conforms conduct action)
    (earlier : List Exchange) :
    Conforms (conduct.after earlier) action :=
  fun _ _ _ _ hrun => (haction hrun).after earlier

/-- What follows on a part may rely on how that part has ended. -/
theorem conforms_bind_of_runs
    {action : Action α} {next : α → Action β}
    (haction : Conforms conduct action)
    (hnext : ∀ {before front value middle},
      action.Runs before front (.ok value) middle →
        Conforms (conduct.after (exchanges front)) (next value)) :
    Conforms conduct (action >>= next) := by
  intro before after events result hrun
  rcases runs_bind_iff.mp hrun with
    ⟨value, middle, front, back, rfl, hfront, hback⟩ | ⟨failure, rfl, hfailed⟩
  · exact (haction hfront).append (hnext hfront hback)
  · exact haction hfailed

theorem conforms_bind
    {action : Action α} {next : α → Action β}
    (haction : Conforms conduct action)
    (hnext : ∀ value, Conforms conduct (next value)) :
    Conforms conduct (action >>= next) :=
  conforms_bind_of_runs haction fun {_ _ value _} _ => (hnext value).after _

/-- What follows on a known result is begun with its value. -/
theorem conforms_liftM_bind
    {known : Except Failure α} {next : α → Action β}
    (hknown : FailsWithin conduct.Fails known)
    (hnext : ∀ value, known = .ok value → Conforms conduct (next value)) :
    Conforms conduct ((liftM known : Action α) >>= next) := by
  intro before after events result hrun
  rcases runs_liftM_bind_iff.mp hrun with ⟨value, hvalue, hrest⟩ | ⟨failure, hfailed, rfl, rfl, rfl⟩
  · exact hnext value hvalue hrest
  · refine Conduct.kept_nil rfl fun other hother => ?_
    cases hother
    exact hknown failure hfailed

/-- What follows on a failure is never begun. -/
theorem conforms_guard
    {condition : Prop} [Decidable condition] {failure : Failure} {next : α → Action β}
    {action : Action β}
    (hfailure : conduct.Fails failure)
    (haction : Conforms conduct action) :
    Conforms conduct (if condition then fail failure >>= next else action) := by
  split
  · intro before after events result hrun
    obtain ⟨rfl, rfl, rfl⟩ := runs_fail_bind_iff.mp hrun
    refine Conduct.kept_nil rfl fun other hother => ?_
    cases hother
    exact hfailure
  · exact haction

/-- An attempt never fails, so it hides an outage. -/
theorem conforms_attempt
    {action : Action α}
    (haction : Conforms conduct action)
    (hfree : conduct.outage = .free) :
    Conforms conduct (attempt action) := by
  intro before after events result hrun
  obtain ⟨outcome, rfl, hattempted⟩ := runs_attempt_iff.mp hrun
  have hkept := haction hattempted
  refine ⟨hkept.context, hkept.logged, hkept.permitted, fun _ hfailed => (by cases hfailed), ?_⟩
  rw [hfree]
  trivial

/-- What follows on a failure may fail with it; it has to do so after an outage, unless outages are
of no account. -/
theorem conforms_attempt_bind
    {action : Action α} {next : Except Failure α → Action β}
    (haction : Conforms conduct action)
    (hsuccess : ∀ value, Conforms conduct (next (.ok value)))
    (hfailure : ∀ failure, Conforms (conduct.allowing failure) (next (.error failure)))
    (houtage : conduct.outage = .free ∨
      ∀ cause, next (.error (.unreachable cause)) = fail (.unreachable cause)) :
    Conforms conduct (attempt action >>= next) := by
  intro before after events result hrun
  obtain ⟨outcome, middle, front, back, rfl, hattempted, hrest⟩ := runs_attempt_bind_iff.mp hrun
  have hfront := haction hattempted
  cases outcome with
  | ok value => exact hfront.append ((hsuccess value hrest).after _)
  | error failure =>
      have hback := hfailure failure hrest
      have hcame : ∀ {known}, CameIn known front → CameIn known (front ++ back) :=
        fun hcame => hcame.of_subset (by simp)
      refine ⟨hback.context.trans hfront.context, ?_, ?_, ?_, ?_⟩
      · rw [logged_append, List.forall_mem_append]
        exact ⟨hfront.logged, fun entry hmem => (hback.logged entry hmem).trans hfront.context⟩
      · rw [exchanges_append]
        exact hfront.permitted.append hback.permitted
      · intro known hknown
        rcases hback.failed known hknown with (hallowed | rfl) | hlater
        · exact Or.inl hallowed
        · exact (hfront.failed known rfl).imp_right hcame
        · exact Or.inr (hlater.of_subset (by simp))
      · by_cases hout : IsOutage (some failure)
        · obtain ⟨cause, hcause⟩ := hout
          cases hcause
          rcases houtage with hfree | hfails
          · rw [hfree]
            trivial
          · rw [hfails cause] at hrest
            obtain ⟨rfl, rfl, rfl⟩ := runs_fail_iff.mp hrest
            rw [List.append_nil]
            exact hfront.outage
        · exact (hfront.outage.forget hout none).append hback.outage

theorem conforms_each
    {items : List α} {action : α → Action Unit}
    (haction : ∀ item ∈ items, Conforms conduct (action item)) :
    Conforms conduct (each items action) := by
  induction items with
  | nil => exact conforms_pure ()
  | cons item rest ih =>
      rw [List.forall_mem_cons] at haction
      exact conforms_bind haction.1 fun _ => ih haction.2

theorem conforms_forEach
    {items : List α} {action : α → Action β}
    (haction : ∀ item ∈ items, Conforms conduct (action item)) :
    Conforms conduct (forEach items action) := by
  induction items with
  | nil => exact conforms_pure []
  | cons item rest ih =>
      rw [List.forall_mem_cons] at haction
      exact conforms_bind haction.1 fun _ => conforms_bind (ih haction.2) fun _ => conforms_pure _

end Rules

/-! ## What an action that conforms does -/

namespace Conforms

variable {conduct : Conduct} {action : Action α}

theorem keepsContext
    (haction : Conforms conduct action) :
    KeepsContext action :=
  fun _ _ _ _ hrun => ⟨(haction hrun).context, (haction hrun).logged⟩

theorem permits
    (haction : Conforms conduct action) :
    Permits conduct.permission action :=
  fun _ _ _ _ hrun => (haction hrun).permitted

theorem sends
    {allowed : Request → Prop}
    (haction : Conforms (.sending allowed) action) :
    Sends allowed action :=
  fun _ _ _ _ hrun => Permission.forall_of_covers_only (haction hrun).permitted

theorem raises
    (haction : Conforms conduct action) :
    Raises conduct.Fails action :=
  fun _ _ _ failure hrun => (haction hrun).failed failure rfl

theorem surfaces
    (haction : Conforms .showing action) :
    Surfaces action :=
  fun _ _ _ _ hrun => (haction hrun).outage

end Conforms

end Action
end RestartCheck
