import RestartCheck.Job.Observation

/-!
# Outcomes of one attempt

A poll repeats an attempt until it settles.  An attempt converges with a value, leaves the matter
pending with whatever it observed, or finds a condition that no waiting can mend.
-/

namespace RestartCheck

/-- What an attempt saw: a decoded value or an observation of a job. -/
inductive Observed
  | json (value : Json)
  | job (observation : JobObservation)
deriving Inhabited

/-- What was seen, inside a message, unless it cannot be told. -/
def Observed.told : Observed → Except Json.Obstacle String
  | .json value => value.told
  | .job observation => .ok observation.literal

instance : Coe Json Observed := ⟨.json⟩

/-- Outcome of one attempt.  A stray value is one that is no outcome at all. -/
inductive PollOutcome (α : Type)
  | converged (value : α)
  | pending (seen : Observed)
  | fatal (reason : String) (details : Json)
  | stray (value : Observed)

end RestartCheck
