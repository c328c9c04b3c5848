import RestartCheck.Version.Basic

/-!
# What a run verifies

A restart is verified in two halves, one before and one after the upgrade.  A run is given its half
and the versions involved once and for all.

**Results.**
* `RunConfig.servingVersion_preUpgrade`: before the upgrade the old version answers requests.
-/

namespace RestartCheck

/-- The half of the restart that a run verifies. -/
inductive Phase
  | preUpgrade
  | postUpgrade
deriving DecidableEq, Repr, Inhabited

namespace Phase

/-- Both phases in order. -/
def all : List Phase := [.preUpgrade, .postUpgrade]

def text : Phase → String
  | .preUpgrade => "pre_upgrade"
  | .postUpgrade => "post_upgrade"

def ofText? (word : String) : Option Phase :=
  all.find? (·.text == word)

end Phase

/-- Inputs of a run, fixed when it starts. -/
structure RunConfig where
  phase : Phase
  oldVersion : Version
  upgradedVersion : Option Version := none
deriving DecidableEq, Repr

namespace RunConfig

def isPreUpgrade (config : RunConfig) : Bool :=
  config.phase == .preUpgrade

/-- The version that answers requests during the run.  None stands for the newest behaviour known,
when no version was configured for after the upgrade. -/
def servingVersion (config : RunConfig) : Option Version :=
  if config.isPreUpgrade then some config.oldVersion else config.upgradedVersion

/-- Before the upgrade the service runs the old version. -/
theorem servingVersion_preUpgrade {config : RunConfig} (h : config.phase = .preUpgrade) :
    config.servingVersion = some config.oldVersion := by
  simp [servingVersion, isPreUpgrade, h]

end RunConfig

end RestartCheck
