import RestartCheck.Run.Coordinator
import RestartCheck.Scenario.Catalog
import RestartCheck.Settings.Model
import RestartCheck.Version.Parser

/-!
# Running one phase

The inputs of a run come from explicit arguments or else from the settings.  They are checked and
fixed before anything is sent to the service.
-/

namespace RestartCheck

namespace RunConfig

/-- The phase named by an argument, or else that of the settings. -/
def choosePhase (settings : Settings) (phase : Option String) : Except Failure Phase :=
  match phase with
  | some word =>
    match Phase.ofText? word with
    | some phase => .ok phase
    | none => .error (.configuration ("invalid phase: " ++ Text.quoted word))
  | none =>
    match settings.phase with
    | some phase => .ok phase
    | none => .error (.configuration "phase is required (PHOENIX_PHASE or --phase)")

/-- The text of the old version given by an argument, or else that of the settings.  Empty texts
count as missing. -/
def chooseVersionText (settings : Settings) (oldVersion : Option String) :
    Except Failure String :=
  match (oldVersion.filter (· ≠ "")).or (settings.oldVersion.filter (· ≠ "")) with
  | some text => .ok text
  | none =>
    .error (.configuration
      "originating version is required (PHOENIX_OLD_CLUSTER_VERSION or --old-version)")

/-- Fix the inputs of a run.  Arguments take precedence over settings. -/
def ofSettings (settings : Settings) (phase oldVersion : Option String) :
    Except Failure RunConfig := do
  let phase ← choosePhase settings phase
  let text ← chooseVersionText settings oldVersion
  let old ← Version.parse text
  let upgraded ←
    match settings.upgradedVersion.filter (· ≠ "") with
    | some text => (Version.parse text).map some
    | none => .ok none
  return ⟨phase, old, upgraded⟩

end RunConfig

namespace Run

/-- An optional text as a log value. -/
def optionalText (text : Option String) : Observed :=
  .json ((text.map Json.string).getD .null)

/-- Log one result of a report. -/
def noteResult (result : ScenarioResult) : Action Unit :=
  Action.note .info "scenario_result"
    [("scenario", .json (.string result.name)),
     ("status", .json (.string result.status.text)),
     ("reason", optionalText result.reason)]

/-- Run every applicable scenario that is enabled and asked for. -/
def phase (settings : Settings) (config : RunConfig) (table : CapabilityTable)
    (only : List String) (patience : Nat) : Action RunReport := do
  let harness ← Harness.create table config patience
  let scenarios ← Catalog.build settings.scenarios table only
  let report ← Coordinator.run harness config scenarios
  Action.each report.results noteResult
  return report

end Run

end RestartCheck
