import RestartCheck.Proofs.Effect.Runs
import RestartCheck.Proofs.Effect.Trace

/-!
# Failures that an action can end with

A bound on the failures of a computation, and on those of every run of an action, apart from the
failures that come in place of an answer.

**Results.**
* `failsWithin_bind`, `failsWithin_mapM`: the bound of a composed computation follows from those of
  its parts.
-/

namespace RestartCheck

/-- The service brings the failure about: it is out of reach, or an answer of it is judged.  The
other failures say that the run itself is set up wrongly, or cannot be told. -/
def Failure.IsOfService : Failure → Prop
  | .unreachable _ => True
  | .fatal _ _ => True
  | .unavailable _ _ => True
  | .migrationFailed _ _ _ => True
  | .timedOut _ _ _ => True
  | .assertion _ => True
  | .defect (.untold _ _) => False
  | .defect _ => True
  | .unspecific _ => False
  | .configuration _ => False
  | .unsupported _ _ _ => False
  | .continuity _ => False

/-- The service brings about that a value cannot be told. -/
theorem Failure.isOfService_ofObstacle
    (obstacle : Json.Obstacle) :
    Failure.IsOfService (.defect (.ofObstacle obstacle)) := by
  cases obstacle with
  | overlong => trivial
  | tooDeep => trivial

/-! ## Computations -/

section Computations

variable {α β : Type} {allowed : Failure → Prop}

/-- A failure of the computation is an allowed one. -/
def FailsWithin
    (allowed : Failure → Prop)
    (known : Except Failure α) : Prop :=
  ∀ failure, known = .error failure → allowed failure

theorem failsWithin_ok
    (value : α) :
    FailsWithin allowed (.ok value : Except Failure α) := by
  intro failure hfailed
  cases hfailed

theorem failsWithin_error
    {failure : Failure}
    (hallowed : allowed failure) :
    FailsWithin allowed (.error failure : Except Failure α) := by
  intro known hfailed
  cases hfailed
  exact hallowed

theorem failsWithin_bind
    {known : Except Failure α} {next : α → Except Failure β}
    (hknown : FailsWithin allowed known)
    (hnext : ∀ value, FailsWithin allowed (next value)) :
    FailsWithin allowed (known >>= next) := by
  cases known with
  | ok value => exact hnext value
  | error failure => exact failsWithin_error (hknown failure rfl)

theorem failsWithin_map
    {known : Except Failure α} {convert : α → β}
    (hknown : FailsWithin allowed known) :
    FailsWithin allowed (known.map convert) := by
  cases known with
  | ok value => exact failsWithin_ok _
  | error failure => exact failsWithin_error (hknown failure rfl)

theorem failsWithin_mapM
    {items : List α} {convert : α → Except Failure β}
    (hconvert : ∀ item, FailsWithin allowed (convert item)) :
    FailsWithin allowed (items.mapM convert) := by
  induction items with
  | nil => exact failsWithin_ok []
  | cons item rest ih =>
      rw [List.mapM_cons]
      exact failsWithin_bind (hconvert item) fun _ => failsWithin_bind ih fun _ => failsWithin_ok _

theorem FailsWithin.mono
    {more : Failure → Prop} {known : Except Failure α}
    (hknown : FailsWithin allowed known)
    (hmore : ∀ failure, allowed failure → more failure) :
    FailsWithin more known :=
  fun failure hfailed => hmore failure (hknown failure hfailed)

end Computations

namespace Action

open Trace

variable {α : Type}

/-- The failure came in place of an answer. -/
def CameIn
    (failure : Failure)
    (events : List Event) : Prop :=
  ∃ exchange ∈ exchanges events, exchange.answer = .error failure

theorem CameIn.of_subset
    {failure : Failure} {events more : List Event}
    (hcame : CameIn failure events)
    (hsubset : exchanges events ⊆ exchanges more) :
    CameIn failure more := by
  obtain ⟨exchange, hmem, hanswer⟩ := hcame
  exact ⟨exchange, hsubset hmem, hanswer⟩

/-- Every run fails in an allowed way, or with what came in place of an answer. -/
def Raises
    (allowed : Failure → Prop)
    (action : Action α) : Prop :=
  ∀ ⦃before after : Session⦄ ⦃events : List Event⦄ ⦃failure : Failure⦄,
    action.Runs before events (.error failure) after → allowed failure ∨ CameIn failure events

end Action
end RestartCheck
