import RestartCheck.Run.Config
import RestartCheck.Job.Observation

/-!
# Settings

The settings of a run in sections: how to reach the service, how to log, and what each scenario is
to check.  Budgets and accepted states belong to a scenario, so that none of them is shared.
-/

namespace RestartCheck

/-- How the service is reached.  The timeout covers one request; it is generous because waiting for
a freshly restarted cluster can take more than a minute. -/
structure ClientSettings where
  baseUrl : String := "http://localhost:9200"
  username : String := "test_user"
  password : String := "x-pack-test-password"
  timeout : Float := 90.0
  verifyTls : Bool := true
deriving Inhabited

/-- Rendering of log entries. -/
inductive LogFormat
  | json
  | console
deriving DecidableEq, Repr, Inhabited

def LogFormat.text : LogFormat → String
  | .json => "json"
  | .console => "console"

/-- How log entries are written. -/
structure LoggingSettings where
  level : String := "INFO"
  format : LogFormat := .console
  redact : Bool := true
deriving Inhabited

/-- How long and how often a poll looks. -/
structure PollBudget where
  interval : Float := 1.0
  timeout : Float := 30.0
deriving Inhabited

structure SecurityStoreSettings where
  enabled : Bool := true
  storeName : String := ".security"
  poll : PollBudget := {}
deriving Inhabited

/-- Settings of the background job scenario. -/
structure JobSettings where
  enabled : Bool := true
  jobId : String := "rollup-job-test"
  documents : Int := 59
  acceptedStates : List JobState := [.started, .indexing]
  poll : PollBudget := {}
deriving Inhabited

structure WatcherSettings where
  enabled : Bool := true
  minHits : Int := 2
  poll : PollBudget := {}
deriving Inhabited

structure ScenarioSettings where
  singleRecord : Bool := true
  incompatibleIndex : Bool := true
  securityStore : SecurityStoreSettings := {}
  job : JobSettings := {}
  watcher : WatcherSettings := {}
deriving Inhabited

/-- All settings.  The phase and the versions are normally given anew for each run. -/
structure Settings where
  phase : Option Phase := none
  oldVersion : Option String := none
  upgradedVersion : Option String := none
  client : ClientSettings := {}
  logging : LoggingSettings := {}
  scenarios : ScenarioSettings := {}
deriving Inhabited

end RestartCheck
