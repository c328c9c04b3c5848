import RestartCheck.Health
import RestartCheck.Json.Path
import RestartCheck.Json.Shape
import RestartCheck.Migration.Cycle
import RestartCheck.Scenario.Basic

/-!
# Upgrade of the watcher store

Watches stored before the upgrade keep their backing stores, which may need migration before the
watcher service can start again.  Once it runs, the stored watches must read back with their time
values intact, the legacy index templates must be gone, and new watches must still be writable.
After the checks the service is stopped again, whether or not they succeeded.
-/

namespace RestartCheck.Watcher

def name : String := "watcher"

def outputIndex : String := "bwc_watch_index"

/-- Mapping type that the watches write. -/
def outputType : String := "bwc_watch_type"

/-- Indices that hold the history of the watches. -/
def historyIndex : String := ".watcher-history*"

def stores : List String := [".watches", ".triggered_watches"]

/-- Resources whose health is waited for. -/
def healthResources : String := ".watches," ++ outputIndex ++ "," ++ historyIndex

/-- Names of the templates that the old watcher installed. -/
def legacyTemplates : List String := ["watches", "triggered_watches"]

/-- Start of the names of the history templates that the old watcher installed. -/
def legacyTemplateStart : String := "watch-history"

/-- The time values of the stored watches, in milliseconds. -/
def timeoutMillis : Int := 100000

def reportAttachment : String := "test_report.pdf"

def reportUser : String := "Aladdin"

/-- Start of a password that comes back encrypted. -/
def encryptedStart : String := "::es_encrypted::"

/-- A password that comes back hidden. -/
def redactedPassword : String := "::es_redacted::"

/-- Name of the watch stored after the upgrade. -/
def newWatch : String := "new_watch"

/-- Where the report is fetched. -/
def reportPath : String := "\x7b\x7bctx.metadata.report_url\x7d\x7d"

def searchBody (timeout : String) : Json :=
  .object
    [("request", .object
       [("indices", .array [.string ".watches"]),
        ("body", .object
          [("size", .int 0), ("query", .object [("match_all", .object [])])])]),
     ("timeout", .string timeout)]

/-- A watch that stores what a search finds. -/
def indexingWatch (throttle : String) (actionThrottle : Option String) : Json :=
  let action : Json.Members :=
    [("transform", .object [("search", searchBody "100s")]),
     ("index", .object
       [("index", .string outputIndex), ("doc_type", .string outputType),
        ("timeout", .string "100s")])]
  let throttled : Json.Members :=
    match actionThrottle with
    | some period => action ++ [("throttle_period", .string period)]
    | none => action
  .object
    [("trigger", .object [("schedule", .object [("interval", .string "1s")])]),
     ("input", .object [("search", searchBody "100s")]),
     ("condition", .object [("always", .object [])]),
     ("throttle_period", .string throttle),
     ("actions", .object [("index_payload", .object throttled)])]

/-- A watch that mails a report fetched with a read timeout in fractional minutes. -/
def reportWatch : Json :=
  let request : Json := .object
    [("scheme", .string "https"),
     ("host", .string "example.com"),
     ("port", .int 8443),
     ("path", .string reportPath),
     ("read_timeout", .string "1.6666666666666667m"),
     ("auth", .object [("basic", .object
       [("username", .string reportUser), ("password", .string "open sesame")])])]
  .object
    [("metadata", .object [("report_url", .string "/api/report")]),
     ("trigger", .object [("schedule", .object [("interval", .string "100s")])]),
     ("input", .object [("none", .object [])]),
     ("condition", .object [("always", .object [])]),
     ("actions", .object [("work", .object [("email", .object
       [("to", .string "ops@example.com"),
        ("subject", .string "Report"),
        ("attachments", .object [(reportAttachment, .object [("http", .object
          [("content_type", .string "application/pdf"), ("request", request)])])])])])])]

/-- A watch that writes a line to the log of the service. -/
def loggingWatch : Json :=
  .object
    [("trigger", .object [("schedule", .object [("interval", .string "1s")])]),
     ("input", .object [("none", .object [])]),
     ("condition", .object [("always", .object [])]),
     ("actions", .object [("awesome", .object [("logging", .object
       [("text", .string "test")])])])]

def reportWatchName : String := "bwc_funny_timeout"

/-- The watches stored before the upgrade. -/
def watches : List (String × Json) :=
  [("bwc_watch", indexingWatch "1s" none),
   ("bwc_throttle_period", indexingWatch "100s" (some "100s")),
   (reportWatchName, reportWatch)]

/-- The fields that the service reports for stored watches, by path. -/
def storedFields : List (String × List (String × Json)) :=
  [("bwc_watch",
    [("throttle_period_in_millis", .int 1000),
     ("input.search.timeout_in_millis", .int timeoutMillis),
     ("actions.index_payload.transform.search.timeout_in_millis", .int timeoutMillis),
     ("actions.index_payload.index.index", .string outputIndex),
     ("actions.index_payload.index.doc_type", .string outputType),
     ("actions.index_payload.index.timeout_in_millis", .int timeoutMillis)]),
   ("bwc_throttle_period",
    [("throttle_period_in_millis", .int timeoutMillis),
     ("actions.index_payload.throttle_period_in_millis", .int timeoutMillis)])]

/-- The fields of the request that fetches the report. -/
def reportFields : List (String × Json) :=
  [("read_timeout_millis", .int timeoutMillis),
   ("scheme", .string "https"),
   ("host", .string "example.com"),
   ("path", .string reportPath),
   ("port", .int 8443)]

/-! ## Waits -/

/-- The number of hits of a search, given plainly or as the value of an object. -/
def totalHits (body : Json) : Except Failure Int := do
  let total ← body.extract "hits.total"
  let number :=
    match total with
    | .object members => Json.Members.getOrNull members "value"
    | other => other
  match number with
  | .int hits => .ok hits
  | other => .error (.defect (.badValue ("unexpected hits.total: " ++ other.literal)))

/-- What the number of hits means for the wait. -/
def hitsOutcome (minHits : Int) (hits : Except Failure Int) : Except Failure (PollOutcome Int) :=
  match hits with
  | .ok hits => .ok (if minHits ≤ hits then .converged hits else .pending (.json (.int hits)))
  | .error (.defect (.badValue message)) => .ok (.fatal message .null)
  | .error failure => .error failure

/-- Search once.  An index may be missing until the first write, and its parts inactive. -/
def enoughHits (index : String) (minHits : Int) : Action (PollOutcome Int) := do
  let response ← Action.call
    { method := "GET", path := "/" ++ index ++ "/_search"
      params := some [("size", .string "0")] }
  if response.status = 404 ∨ response.status = 503 then
    return .pending (.json (.string ("status " ++ toString response.status)))
  else if !response.ok then
    return .fatal ("search on [" ++ index ++ "] answered " ++ toString response.status)
      (.string response.body)
  else
    let body ← response.object
    hitsOutcome minHits (totalHits (.object body))

/-- Poll a search on an index until it has enough hits.  Their number is told in decimal. -/
def awaitHits (settings : WatcherSettings) (ctx : ScenarioContext) (index : String) :
    Action Int := do
  match Decimal.integerText? settings.minHits with
  | none => Action.fail (.defect (.badValue Decimal.unwrittenMessage))
  | some number =>
    awaitConvergence ctx.harness.patience (enoughHits index settings.minHits)
      settings.poll.interval settings.poll.timeout ("[" ++ index ++ "] has " ++ number ++ " hits")

def nodeStates (body : Json.Members) : Except Failure (List Json) := do
  let nodes ← (body.getOrNull "stats").presentElements
  nodes.mapM fun node => node.member "watcher_state"

/-- There is a node, and every node reports the state. -/
def allInState (expected : String) (states : List Json) : Bool :=
  !states.isEmpty && states.all fun state => state.same (.string expected)

/-- Read the watcher states of all nodes once. -/
def nodesInState (statsPath expected : String) : Action (PollOutcome (List Json)) := do
  let response ← Action.call { method := "GET", path := statsPath }
  if response.status = 503 then
    return .pending (.json (.string "stats unavailable"))
  else if !response.ok then
    return .fatal ("watcher stats answered " ++ toString response.status) (.string response.body)
  else
    let states ← nodeStates (← response.object)
    if allInState expected states then return .converged states
    else return .pending (.json (.array states))

/-- Poll the watcher until every node reports a state. -/
def awaitState (settings : WatcherSettings) (ctx : ScenarioContext) (expected : String) :
    Action Unit := do
  let statsPath ← (← ctx.serving Capability.watcherService).textAt "stats_path"
  let _ ← awaitConvergence ctx.harness.patience (nodesInState statsPath expected)
    settings.poll.interval settings.poll.timeout ("watcher " ++ expected)

/-! ## Checks -/

/-- Read a watch and return its source. -/
def readWatch (watchPath watch : String) : Action Json := do
  let response ← Action.call { method := "GET", path := watchPath ++ "/" ++ watch }
  let response ← requireOk response ("reading watch " ++ watch)
  let found ← response.object
  check (found.getOrNull "found").isTrue ("watch " ++ watch ++ " not found")
  let source := found.getOrNull "watch"
  check source.isObject ("watch " ++ watch ++ " has no source: " ++ Json.display (.object found))
  return source

/-- The template was installed by the old watcher. -/
def isLegacyTemplate (template : String) : Bool :=
  legacyTemplates.contains template
    || legacyTemplateStart.toList.isPrefixOf template.toList

/-- The templates of the old watcher must be gone. -/
def checkTemplates : Action Unit := do
  let response ← Action.call { method := "GET", path := "/_template" }
  let response ← requireOk response "listing templates"
  let templates ← response.object
  let leftover := Text.sorted ((OrderedMap.keys templates).filter isLegacyTemplate)
  check leftover.isEmpty
    ("legacy watcher templates survived the upgrade: " ++ Text.quotedList leftover)

/-- The fields of a stored watch must have their values. -/
def checkFields (watch : String) (source : Json) : List (String × Json) → Except Failure Unit
  | [] => .ok ()
  | (path, expected) :: rest => do
    let actual ← source.extractOr path .null
    check (actual.same expected)
      ("watch " ++ watch ++ " [" ++ path ++ "] is " ++ actual.literal ++ ", expected "
        ++ expected.literal)
    checkFields watch source rest

/-- The fields of the request of a report must have their values. -/
def checkRequest (watch : String) (request : Json) : List (String × Json) → Except Failure Unit
  | [] => .ok ()
  | (field, expected) :: rest => do
    let actual ← request.member field
    check (actual.same expected)
      ("watch " ++ watch ++ " request [" ++ field ++ "] is " ++ actual.literal ++ ", expected "
        ++ expected.literal)
    checkRequest watch request rest

/-- The password is not readable. -/
def isProtected (password : String) : Bool :=
  encryptedStart.toList.isPrefixOf password.toList || password == redactedPassword

/-- The report watch must keep its request; its password only ever comes back hidden. -/
def checkReport (watch : String) (source : Json) : Except Failure Unit := do
  let attachments ← source.extractOr "actions.work.email.attachments" (.object [])
  let attachment ← attachments.memberOr reportAttachment (.object [])
  let request ← attachment.extractOr "http.request" (.object [])
  checkRequest watch request reportFields
  let basic ← request.extractOr "auth.basic" (.object [])
  check ((← basic.member "username").same (.string reportUser))
    ("watch " ++ watch ++ " lost its basic auth user")
  check (isProtected (← basic.member "password").display)
    ("watch " ++ watch ++ " returned its password unprotected")

/-- The stored watches must keep their time values, and the history its hits. -/
def checkStored (settings : WatcherSettings) (ctx : ScenarioContext) (watchPath : String) :
    Action Unit := do
  Action.each storedFields fun (watch, fields) => do
    let ref ← ctx.resource watch "watch"
    let source ← readWatch watchPath ref.name
    checkFields watch source fields
  let ref ← ctx.resource reportWatchName "watch"
  let source ← readWatch watchPath ref.name
  checkReport ref.name source
  let _ ← awaitHits settings ctx historyIndex

/-- Store the new watch, which must get the version and be created or not as expected. -/
def storeNewWatch (watchPath : String) (version : Int) (created : Bool) : Action Unit := do
  let response ← Action.call
    { method := "PUT", path := watchPath ++ "/" ++ newWatch, body := some loggingWatch }
  let response ← requireOk response ("storing watch " ++ newWatch)
  let put ← response.object
  let actuallyCreated := put.getOrNull "created"
  check (match actuallyCreated with
      | .bool value => value == created
      | _ => false)
    ("watch " ++ newWatch ++ " created=" ++ actuallyCreated.display)
  let actualVersion := put.getOrNull "_version"
  check (actualVersion.same (.int version))
    ("watch " ++ newWatch ++ " has version " ++ actualVersion.display ++ ", expected "
      ++ toString version)

/-- Store a new watch twice and read it back. -/
def checkUpdates (watchPath : String) : Action Unit := do
  storeNewWatch watchPath 1 true
  storeNewWatch watchPath 2 false
  let source ← readWatch watchPath newWatch
  let action ← source.extractOr "actions.awesome.logging" (.object [])
  check ((← action.member "level").same (.string "info"))
    ("unexpected logging level: " ++ action.display)
  check ((← action.member "text").same (.string "test"))
    ("unexpected logging text: " ++ action.display)

/-- Stop the watcher and wait until it has stopped. -/
def stop (settings : WatcherSettings) (ctx : ScenarioContext) (service : Json.Members) :
    Action Unit := do
  let stopPath ← service.textAt "stop_path"
  let response ← Action.call { method := "POST", path := stopPath }
  let stopped ← requireOk response "stopping watcher"
  check ((← stopped.object).getOrNull "acknowledged").isTrue "watcher stop not acknowledged"
  awaitState settings ctx "stopped"

/-! ## The two halves -/

/-- Store the watches and wait until they have written something. -/
def create (settings : WatcherSettings) (ctx : ScenarioContext) : Action Unit := do
  let service ← ctx.serving Capability.watcherService
  Action.each watches fun (watch, body) => do
    let ref ← ctx.resource watch "watch"
    let watchPath ← service.textAt "watch_path"
    let response ← Action.call
      { method := "PUT", path := watchPath ++ "/" ++ ref.name, body := some body }
    let _ ← requireOk response ("storing " ++ ref.text)
    Action.note .info "watch_stored" [("watch", .json (.string ref.name))]
  let _ ← Health.await ctx.harness.table ctx.config.oldVersion (some healthResources)
  let output ← ctx.resource outputIndex
  let _ ← awaitHits settings ctx output.name
  let _ ← awaitHits settings ctx historyIndex

/-- Bring the stores to the current version, and ask again whether they are. -/
def migrateStores (settings : WatcherSettings) (ctx : ScenarioContext) : Action Unit := do
  let refs ← Action.forEach stores fun store => Action.ofExcept (ctx.resource store)
  let outcomes ← Migration.migratePending ctx.harness refs settings.poll.interval
    settings.poll.timeout
  Action.each outcomes fun (ref, outcome) =>
    Action.note .info "watch_store_migrated"
      [("store", .json (.string ref.text)), ("outcome", .json (.string outcome.literal))]
  let remaining ← Migration.detect ctx.harness.assistancePath refs
  let pending := Text.sorted
    ((remaining.filter fun entry => entry.2.isPending).map fun entry => entry.1.text)
  check pending.isEmpty ("watch stores still need migration: " ++ Text.quotedList pending)

/-- Start the watcher and wait until it has started. -/
def startWatcher (settings : WatcherSettings) (ctx : ScenarioContext) (startPath : String) :
    Action Unit := do
  let response ← Action.call { method := "POST", path := startPath }
  let started ← requireOk response "starting watcher"
  check ((← started.object).getOrNull "acknowledged").isTrue "watcher start not acknowledged"
  awaitState settings ctx "started"

/-- The checks that need the watcher running.  Where watches are stored is only looked up once the
templates have been checked. -/
def checkRunning (settings : WatcherSettings) (ctx : ScenarioContext) (service : Json.Members) :
    Action Unit := do
  checkTemplates
  let watchPath ← service.textAt "watch_path"
  checkStored settings ctx watchPath
  checkUpdates watchPath

/-- Run the checks and stop the watcher.  When the checks fail their failure is the one reported,
however the stop ends. -/
def checkAndStop (settings : WatcherSettings) (ctx : ScenarioContext)
    (service : Json.Members) : Action Unit := do
  match ← Action.attempt (checkRunning settings ctx service) with
  | .ok () => stop settings ctx service
  | .error failure =>
    match ← Action.attempt (stop settings ctx service) with
    | .ok () => pure ()
    | .error _ => Action.note .error "watcher_stop_failed" [("exc_info", .json (.bool true))]
    Action.fail failure

def verify (settings : WatcherSettings) (ctx : ScenarioContext) : Action Unit := do
  let service ← ctx.serving Capability.watcherService
  let _ ← Health.await ctx.harness.table ctx.config.oldVersion (some healthResources)
  migrateStores settings ctx
  startWatcher settings ctx (← service.textAt "start_path")
  checkAndStop settings ctx service

def scenario (settings : WatcherSettings) : Scenario where
  name := name
  resources :=
    (stores.map fun store => { name := store }) ++ [{ name := outputIndex }]
      ++ watches.map fun watch => ⟨watch.1, "watch"⟩
  preUpgrade := create settings
  postUpgrade := verify settings

end RestartCheck.Watcher
