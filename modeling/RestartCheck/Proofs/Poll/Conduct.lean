import RestartCheck.Proofs.Effect.Conduct
import RestartCheck.Proofs.Poll.Outage

/-!
# The conduct of a poll

A poll conforms to a conduct as soon as its attempt does.  In one respect the two differ: an outage
that ends an attempt at once does not end the poll, which tries again and gives up later.

**Results.**
* `conforms_pollFrom`: the trials of a poll, by induction on their number.
* `conforms_awaitConvergence`: the whole poll.
-/

namespace RestartCheck

open RestartCheck.Action Trace

/-- The conduct with any failure allowed, and no account taken of outages. -/
def Action.Conduct.lenient (conduct : Conduct) : Conduct where
  permission := conduct.permission
  Fails _ := True
  ofService := fun _ _ => trivial
  outage := .free

namespace Poll

variable {α : Type} {conduct : Conduct} {attempt : Action (PollOutcome α)}
  {timeout : Float} {description : String}

/-- Exhausted patience is no result, and a trial either decides the poll or is followed by more of
them. -/
theorem conforms_pollFrom
    (hattempt : Conforms conduct attempt)
    (hfree : conduct.outage = .free)
    (pace : Pace Float)
    (start : Float)
    (patience attempts : Nat) :
    Conforms conduct
      (pollFrom (sessionClockwork description) (Action.attempt attempt) pace start patience
        attempts) := by
  induction patience generalizing attempts with
  | zero => exact conforms_pure none
  | succ patience ih =>
      refine conforms_bind (conforms_attempt hattempt hfree) fun outcome => ?_
      cases Verdict.ofAttempt outcome with
      | final ending => exact conforms_pure _
      | transient seen ending =>
          refine conforms_bind (conforms_query (by simp) (by simp)) fun reading => ?_
          simp only
          split
          · exact conforms_pure _
          · refine conforms_bind (conforms_noteShowing _ _ _ _ _) fun _ => ?_
            exact conforms_bind (conforms_query (by simp) (by simp)) fun _ => ih _

theorem conforms_end
    (hany : ∀ failure, conduct.Fails failure)
    (ending : Option (PollEnd α)) :
    Conforms conduct (match ending with
      | none => Action.stuck
      | some ending => do
        ending.note description timeout
        Action.ofExcept (ending.toExcept description timeout)) := by
  cases ending with
  | none => exact conforms_stuck
  | some ending =>
      refine conforms_bind ?_ fun _ => conforms_ofExcept fun failure _ => hany failure
      cases ending with
      | converged value attempts => exact conforms_note _ _ _
      | fatal reason details attempts => exact conforms_note _ _ _
      | expired seen attempts => exact conforms_noteShowing _ _ _ _ _
      | unreached cause attempts => exact conforms_noteShowing _ _ _ _ _
      | stray value => exact conforms_pure _
      | failed failure => exact conforms_pure _

/-- A poll conforms as its attempt does, but it does not end at an outage. -/
theorem conforms_awaitConvergence
    (hattempt : Conforms (conduct.withOutage .endsAtOnce) attempt)
    (hrule : conduct.outage ≠ .endsAtOnce)
    (patience : Nat)
    (interval timeout : Float)
    (description : String) :
    Conforms conduct (awaitConvergence patience attempt interval timeout description) := by
  have hlenient : Conforms conduct.lenient
      (awaitConvergence patience attempt interval timeout description) := by
    have htrial : Conforms conduct.lenient attempt := fun _ _ _ _ hrun =>
      ⟨(hattempt hrun).context, (hattempt hrun).logged, (hattempt hrun).permitted,
        fun _ _ => Or.inl trivial, trivial⟩
    refine conforms_guard trivial (conforms_bind ?_ (conforms_end fun _ => trivial))
    exact conforms_bind (conforms_query (by simp) (by simp)) fun start =>
      conforms_pollFrom htrial rfl _ _ _ _
  intro before after events result hrun
  have hkept := hlenient hrun
  refine ⟨hkept.context, hkept.logged, hkept.permitted, fun failure hfailed => ?_, ?_⟩
  · rw [failure?_eq_some_iff.mp hfailed] at hrun
    exact raises_awaitConvergence conduct.ofService hattempt.raises hrun
  · cases hdemand : conduct.outage with
    | endsAtOnce => exact absurd hdemand hrule
    | shows => exact surfaces_awaitConvergence (fun _ _ _ _ htried => (hattempt htried).outage) hrun
    | free => trivial

end Poll
end RestartCheck
