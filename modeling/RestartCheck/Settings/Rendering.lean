import RestartCheck.Failure
import RestartCheck.Settings.Model

/-!
# Showing settings

Settings as a JSON value of the shape in which they can be given.  Everything is shown, defaults and
the password included.

**Results.**
* `members_names`: every section is shown, in order.
-/

namespace RestartCheck

def optionalJson (text : Option String) : Json :=
  (text.map Json.string).getD .null

def PollBudget.json (poll : PollBudget) : Json :=
  .object [("interval", .float poll.interval), ("timeout", .float poll.timeout)]

/-- How the service is reached, as a value. -/
def ClientSettings.json (client : ClientSettings) : Json :=
  .object
    [("base_url", .string client.baseUrl), ("username", .string client.username),
     ("password", .string client.password), ("timeout", .float client.timeout),
     ("verify_tls", .bool client.verifyTls)]

/-- How log entries are written, as a value. -/
def LoggingSettings.json (logging : LoggingSettings) : Json :=
  .object
    [("level", .string logging.level), ("format", .string logging.format.text),
     ("redact_pii", .bool logging.redact)]

/-- Settings of the security store scenario as a value. -/
def SecurityStoreSettings.json (store : SecurityStoreSettings) : Json :=
  .object
    [("enabled", .bool store.enabled), ("store_name", .string store.storeName),
     ("poll", store.poll.json)]

/-- Settings of the background job scenario as a value. -/
def JobSettings.json (job : JobSettings) : Json :=
  .object
    [("enabled", .bool job.enabled), ("job_id", .string job.jobId),
     ("num_docs", .int job.documents),
     ("accepted_states", .array (job.acceptedStates.map fun state => .string state.text)),
     ("poll", job.poll.json)]

/-- Settings of the watcher scenario as a value. -/
def WatcherSettings.json (watcher : WatcherSettings) : Json :=
  .object
    [("enabled", .bool watcher.enabled), ("min_hits", .int watcher.minHits),
     ("poll", watcher.poll.json)]

def ScenarioSettings.json (scenarios : ScenarioSettings) : Json :=
  .object
    [("single_record_enabled", .bool scenarios.singleRecord),
     ("incompatible_index_enabled", .bool scenarios.incompatibleIndex),
     ("security_store", scenarios.securityStore.json),
     ("job_persistence", scenarios.job.json),
     ("watcher", scenarios.watcher.json)]

def Settings.members (settings : Settings) : Json.Members :=
  [("phase", optionalJson (settings.phase.map Phase.text)),
   ("old_cluster_version", optionalJson settings.oldVersion),
   ("upgraded_version", optionalJson settings.upgradedVersion),
   ("client", settings.client.json),
   ("observability", .object [("logging", settings.logging.json)]),
   ("scenarios", settings.scenarios.json)]

/-- All settings by name, if every integer among them can be written. -/
def Settings.shown (settings : Settings) : Except Failure Json.Members :=
  if (Decimal.integerText? settings.scenarios.watcher.minHits).isSome then .ok settings.members
  else .error (.defect (.badValue Decimal.unwrittenMessage))

/-- The settings are shown in a fixed order. -/
theorem Settings.members_names (settings : Settings) :
    OrderedMap.keys settings.members =
      ["phase", "old_cluster_version", "upgraded_version", "client", "observability",
       "scenarios"] := rfl

end RestartCheck
