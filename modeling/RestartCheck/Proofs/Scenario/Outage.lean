import RestartCheck.Proofs.Scenario.Writes
import RestartCheck.Proofs.Watcher.Outage

/-!
# The built-in scenarios when the service is out of reach

Every half of every built-in scenario ends with the service reported out of reach, as soon as a
request does not reach it outside of a poll, or a poll gives up for this reason.  There is one
exception: when the checks of the watcher scenario have failed already, the watcher is stopped
again, and whatever the stop meets is only logged.

**Results.**
* `Catalog.surfaces_or_hides_of_runs_half`: every half of every built-in scenario.
-/

namespace RestartCheck

open RestartCheck.Action Trace

namespace Catalog

variable {settings : ScenarioSettings} {table : CapabilityTable} {scenario : Scenario}

/-- Only the second half of the watcher scenario can hide an outage. -/
theorem surfaces_or_hides_of_runs_half
    {wanted : Bool} {phase : Phase} {ctx : ScenarioContext} {before after : Session}
    {events : List Event} {result : Except Failure Unit}
    (hmem : (wanted, scenario) ∈ all settings table)
    (hrun : (scenario.half phase ctx).Runs before events result after) :
    Surfaced events (failure? result) ∨
    (scenario = Watcher.scenario settings.watcher ∧
      phase = .postUpgrade ∧
      Watcher.HidesOutage settings.watcher ctx events result) := by
  by_cases hwatcher : scenario = Watcher.scenario settings.watcher ∧ phase = .postUpgrade
  · obtain ⟨rfl, rfl⟩ := hwatcher
    exact (Watcher.surfaces_or_hides_of_runs_verify hrun).imp_right fun hhides => ⟨rfl, rfl, hhides⟩
  refine Or.inl ?_
  cases phase with
  | preUpgrade =>
      exact Conforms.surfaces
        (conforms_preUpgrade hmem (fun _ _ => trivial) (fun _ _ => trivial) nofun) hrun
  | postUpgrade =>
      exact Conforms.surfaces (conforms_postUpgrade hmem (fun _ _ => trivial)
        (fun _ _ _ => trivial) nofun fun hsame => absurd ⟨hsame, rfl⟩ hwatcher) hrun

end Catalog
end RestartCheck
