import RestartCheck.Scenario.BackgroundJob
import RestartCheck.Scenario.IncompatibleIndex
import RestartCheck.Scenario.SecurityStore
import RestartCheck.Scenario.SingleRecord
import RestartCheck.Scenario.Watcher

/-!
# The built-in scenarios

All scenarios in the order in which a run executes them, and the selection of those that are enabled
and asked for.
-/

namespace RestartCheck.Catalog

def names : List String :=
  [SingleRecord.name, SecurityStore.name, Watcher.name, BackgroundJob.name,
   IncompatibleIndex.name]

/-- All scenarios in order, and whether they are enabled. -/
def all (settings : ScenarioSettings) (table : CapabilityTable) : List (Bool × Scenario) :=
  [(settings.singleRecord, SingleRecord.scenario),
   (settings.securityStore.enabled, SecurityStore.scenario settings.securityStore),
   (settings.watcher.enabled, Watcher.scenario settings.watcher),
   (settings.job.enabled, BackgroundJob.scenario settings.job table),
   (settings.incompatibleIndex, IncompatibleIndex.scenario table)]

def enabled (settings : ScenarioSettings) (table : CapabilityTable) : List Scenario :=
  (all settings table).filterMap fun (wanted, scenario) => if wanted then some scenario else none

/-- The scenarios among the given ones that are asked for by name; no name stands for all. -/
def select (only : List String) (scenarios : List Scenario) : List Scenario :=
  if only.isEmpty then scenarios
  else scenarios.filter fun scenario => only.contains scenario.name

/-- The enabled scenarios that are asked for, in order. -/
def build (settings : ScenarioSettings) (table : CapabilityTable) (only : List String) :
    Except Failure (List Scenario) :=
  let unknown := Text.sorted ((only.filter fun name => !names.contains name).eraseDups)
  if unknown.isEmpty then .ok (select only (enabled settings table))
  else .error (.configuration ("unknown scenarios: " ++ Text.quotedList unknown))

end RestartCheck.Catalog
