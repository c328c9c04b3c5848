import RestartCheck.Scenario.Watcher
import RestartCheck.Proofs.Migration.Triggering
import RestartCheck.Proofs.Scenario.Conduct

/-!
# The conduct of the watcher scenario

The second half migrates the stores that its own detection has found required, starts and stops the
watcher, and stores the new watch.  Everything else that it sends is a read.

When the checks have failed the watcher is stopped all the same, and whatever the stop meets is only
logged.  So the second half as a whole keeps to no rule about outages, while its parts do.

**Results.**
* `conforms_awaitHits`, `conforms_awaitState`: the waits.
* `conforms_checkRunning`, `conforms_stop`: the checks, and the stop behind them.
* `conforms_create`, `conforms_verify`: both halves.
-/

namespace RestartCheck
namespace Watcher

open RestartCheck.Action

/-- The capabilities that the scenario looks up. -/
def needed : List String :=
  [Capability.watcherService]

def statsRequest (statsPath : String) : Request :=
  { method := "GET", path := statsPath }

/-- The request that starts or stops the watcher. -/
def commandRequest (path : String) : Request :=
  { method := "POST", path := path }

def storeRequest (watchPath : String) : Request :=
  { method := "PUT", path := watchPath ++ "/" ++ newWatch, body := some loggingWatch }

/-! ## Judging answers -/

theorem failsWithin_totalHits
    (body : Json) :
    FailsWithin Failure.IsOfService (totalHits body) := by
  refine failsWithin_bind (Json.failsWithin_extract _ _) fun total => ?_
  simp only
  split
  · exact failsWithin_ok _
  · exact failsWithin_error trivial

theorem failsWithin_hitsOutcome
    (minHits : Int)
    {hits : Except Failure Int}
    (hhits : FailsWithin Failure.IsOfService hits) :
    FailsWithin Failure.IsOfService (hitsOutcome minHits hits) := by
  unfold hitsOutcome
  split
  · exact failsWithin_ok _
  · exact failsWithin_ok _
  · exact failsWithin_error (hhits _ rfl)

theorem failsWithin_nodeStates
    (body : Json.Members) :
    FailsWithin Failure.IsOfService (nodeStates body) :=
  failsWithin_bind (Json.failsWithin_presentElements _) fun _ =>
    failsWithin_mapM fun node => Json.failsWithin_member node _

theorem failsWithin_checkFields
    (watch : String)
    (source : Json)
    (fields : List (String × Json)) :
    FailsWithin Failure.IsOfService (checkFields watch source fields) := by
  induction fields with
  | nil => exact failsWithin_ok ()
  | cons field rest ih =>
      exact failsWithin_bind (Json.failsWithin_extractOr _ _ _) fun actual =>
        failsWithin_bind (failsWithin_check _ _) fun _ => ih

theorem failsWithin_checkRequest
    (watch : String)
    (request : Json)
    (fields : List (String × Json)) :
    FailsWithin Failure.IsOfService (checkRequest watch request fields) := by
  induction fields with
  | nil => exact failsWithin_ok ()
  | cons field rest ih =>
      exact failsWithin_bind (Json.failsWithin_member _ _) fun actual =>
        failsWithin_bind (failsWithin_check _ _) fun _ => ih

theorem failsWithin_checkReport
    (watch : String)
    (source : Json) :
    FailsWithin Failure.IsOfService (checkReport watch source) := by
  refine failsWithin_bind (Json.failsWithin_extractOr _ _ _) fun attachments => ?_
  refine failsWithin_bind (failsWithin_map (Json.failsWithin_membersOf _)) fun attachment => ?_
  refine failsWithin_bind (Json.failsWithin_extractOr _ _ _) fun request => ?_
  refine failsWithin_bind (failsWithin_checkRequest _ _ _) fun _ => ?_
  refine failsWithin_bind (Json.failsWithin_extractOr _ _ _) fun basic => ?_
  refine failsWithin_bind (Json.failsWithin_member _ _) fun username => ?_
  refine failsWithin_bind (failsWithin_check _ _) fun _ => ?_
  exact failsWithin_bind (Json.failsWithin_member _ _) fun password => failsWithin_check _ _

theorem failsWithin_watcherService
    {conduct : Conduct} {ctx : ScenarioContext} {declared : List ResourceRef}
    (hfails : conduct.CoversHalf ctx declared needed) :
    FailsWithin conduct.Fails (ctx.serving Capability.watcherService) :=
  failsWithin_serving hfails List.mem_cons_self

/-! ## Waits -/

section Waits

variable {conduct : Conduct} {settings : WatcherSettings} {ctx : ScenarioContext}

theorem conforms_enoughHits
    {index : String} {minHits : Int}
    (hread : conduct.Reads) :
    Conforms conduct (enoughHits index minHits) := by
  refine conforms_bind (conforms_call (hread rfl)) fun response => ?_
  split
  · exact conforms_pure _
  split
  · exact conforms_pure _
  refine conforms_bind (conforms_judging (failsWithin_object response)) fun body => ?_
  exact conforms_judging (failsWithin_hitsOutcome _ (failsWithin_totalHits _))

theorem conforms_awaitHits
    {index : String}
    (hread : conduct.Reads)
    (hrule : conduct.outage ≠ .endsAtOnce) :
    Conforms conduct (awaitHits settings ctx index) := by
  unfold awaitHits
  split
  · exact conforms_fail (conduct.ofService trivial)
  · exact Poll.conforms_awaitConvergence (conforms_enoughHits hread) hrule _ _ _ _

theorem conforms_nodesInState
    {statsPath expected : String}
    (hstats : conduct.permission.Allows [] (statsRequest statsPath)) :
    Conforms conduct (nodesInState statsPath expected) := by
  refine conforms_bind (conforms_call hstats) fun response => ?_
  split
  · exact conforms_pure _
  split
  · exact conforms_pure _
  refine conforms_bind (conforms_judging (failsWithin_object response)) fun body => ?_
  refine conforms_bind (conforms_judging (failsWithin_nodeStates body)) fun states => ?_
  split
  · exact conforms_pure _
  · exact conforms_pure _

theorem conforms_awaitState
    {expected : String}
    (hserving : FailsWithin conduct.Fails (ctx.serving Capability.watcherService))
    (hstats : ∀ path, conduct.permission.Allows [] (statsRequest path))
    (hrule : conduct.outage ≠ .endsAtOnce) :
    Conforms conduct (awaitState settings ctx expected) := by
  refine conforms_bind (conforms_liftM hserving) fun service => ?_
  refine conforms_bind (conforms_judging (failsWithin_textAt _ _)) fun statsPath => ?_
  exact conforms_bind (Poll.conforms_awaitConvergence (conforms_nodesInState (hstats _)) hrule
    _ _ _ _) fun _ => conforms_pure _

/-- A command and the wait for the state it leads to. -/
theorem conforms_command
    {path attempted message state : String}
    (hserving : FailsWithin conduct.Fails (ctx.serving Capability.watcherService))
    (hread : conduct.Reads)
    (hcommand : conduct.permission.Allows [] (commandRequest path))
    (hrule : conduct.outage ≠ .endsAtOnce) :
    Conforms conduct (do
      let response ← call (commandRequest path)
      let done ← requireOk response attempted
      check ((← done.object).getOrNull "acknowledged").isTrue message
      awaitState settings ctx state) := by
  refine conforms_bind (conforms_call hcommand) fun response => ?_
  refine conforms_bind (conforms_judging (failsWithin_requireOk _ _)) fun done => ?_
  refine conforms_bind (conforms_judging (failsWithin_object done)) fun body => ?_
  refine conforms_bind (conforms_judging (failsWithin_check _ _)) fun _ => ?_
  exact conforms_awaitState hserving (fun _ => hread rfl) hrule

theorem conforms_startWatcher
    {startPath : String}
    (hserving : FailsWithin conduct.Fails (ctx.serving Capability.watcherService))
    (hread : conduct.Reads)
    (hstart : conduct.permission.Allows [] (commandRequest startPath))
    (hrule : conduct.outage ≠ .endsAtOnce) :
    Conforms conduct (startWatcher settings ctx startPath) :=
  conforms_command hserving hread hstart hrule

theorem conforms_stop
    {service : Json.Members}
    (hserving : FailsWithin conduct.Fails (ctx.serving Capability.watcherService))
    (hread : conduct.Reads)
    (hstop : ∀ path, service.textAt "stop_path" = .ok path →
      conduct.permission.Allows [] (commandRequest path))
    (hrule : conduct.outage ≠ .endsAtOnce) :
    Conforms conduct (stop settings ctx service) := by
  refine conforms_liftM_bind ((failsWithin_textAt _ _).mono conduct.ofService) fun path hpath => ?_
  exact conforms_command hserving hread (hstop path hpath) hrule

end Waits

/-! ## Checks -/

section Checks

variable {conduct : Conduct} {settings : WatcherSettings} {ctx : ScenarioContext}
  {watchPath : String}

theorem conforms_readWatch
    {watch : String}
    (hread : conduct.Reads) :
    Conforms conduct (readWatch watchPath watch) := by
  refine conforms_bind (conforms_call (hread rfl)) fun response => ?_
  refine conforms_bind (conforms_judging (failsWithin_requireOk _ _)) fun checked => ?_
  refine conforms_bind (conforms_judging (failsWithin_object checked)) fun found => ?_
  refine conforms_bind (conforms_judging (failsWithin_check _ _)) fun _ => ?_
  exact conforms_bind (conforms_judging (failsWithin_check _ _)) fun _ => conforms_pure _

theorem conforms_storeNewWatch
    {version : Int} {created : Bool}
    (hstore : conduct.permission.Allows [] (storeRequest watchPath)) :
    Conforms conduct (storeNewWatch watchPath version created) := by
  refine conforms_bind (conforms_call hstore) fun response => ?_
  refine conforms_bind (conforms_judging (failsWithin_requireOk _ _)) fun checked => ?_
  refine conforms_bind (conforms_judging (failsWithin_object checked)) fun put => ?_
  exact conforms_bind (conforms_judging (failsWithin_check _ _)) fun _ =>
    conforms_judging (failsWithin_check _ _)

theorem conforms_checkUpdates
    (hread : conduct.Reads)
    (hstore : conduct.permission.Allows [] (storeRequest watchPath)) :
    Conforms conduct (checkUpdates watchPath) := by
  refine conforms_bind (conforms_storeNewWatch hstore) fun _ => ?_
  refine conforms_bind (conforms_storeNewWatch hstore) fun _ => ?_
  refine conforms_bind (conforms_readWatch hread) fun source => ?_
  refine conforms_bind (conforms_judging (Json.failsWithin_extractOr _ _ _)) fun action => ?_
  refine conforms_bind (conforms_judging (Json.failsWithin_member _ _)) fun level => ?_
  refine conforms_bind (conforms_judging (failsWithin_check _ _)) fun _ => ?_
  exact conforms_bind (conforms_judging (Json.failsWithin_member _ _)) fun text =>
    conforms_judging (failsWithin_check _ _)

theorem conforms_checkTemplates
    (hread : conduct.Reads) :
    Conforms conduct checkTemplates := by
  refine conforms_bind (conforms_call (hread rfl)) fun response => ?_
  refine conforms_bind (conforms_judging (failsWithin_requireOk _ _)) fun checked => ?_
  exact conforms_bind (conforms_judging (failsWithin_object checked)) fun templates =>
    conforms_judging (failsWithin_check _ _)

theorem mem_resources_of_mem_watches
    (settings : WatcherSettings)
    {watch : String}
    (hmem : watch ∈ watches.map Prod.fst) :
    ⟨watch, "watch"⟩ ∈ (scenario settings).resources := by
  obtain ⟨entry, hentry, rfl⟩ := List.mem_map.mp hmem
  exact List.mem_append_right _ (List.mem_map_of_mem hentry)

theorem mem_watches_of_mem_storedFields
    {stored : String × List (String × Json)}
    (hmem : stored ∈ storedFields) :
    stored.1 ∈ watches.map Prod.fst := by
  have hnames : storedFields.map Prod.fst ⊆ watches.map Prod.fst := by decide
  exact hnames (List.mem_map_of_mem hmem)

theorem conforms_checkStored
    (hfails : conduct.CoversHalf ctx (scenario settings).resources needed)
    (hread : conduct.Reads)
    (hrule : conduct.outage ≠ .endsAtOnce) :
    Conforms conduct (checkStored settings ctx watchPath) := by
  refine conforms_bind (conforms_each fun stored hmem => ?_) fun _ => ?_
  · have hdeclared := mem_resources_of_mem_watches settings (mem_watches_of_mem_storedFields hmem)
    refine conforms_liftM_bind (failsWithin_resource hfails hdeclared) fun ref _ => ?_
    exact conforms_bind (conforms_readWatch hread) fun source =>
      conforms_judging (failsWithin_checkFields _ _ _)
  have hdeclared := mem_resources_of_mem_watches settings
    (by decide : reportWatchName ∈ watches.map Prod.fst)
  refine conforms_liftM_bind (failsWithin_resource hfails hdeclared) fun ref _ => ?_
  refine conforms_bind (conforms_readWatch hread) fun source => ?_
  refine conforms_bind (conforms_judging (failsWithin_checkReport _ _)) fun _ => ?_
  exact conforms_bind (conforms_awaitHits hread hrule) fun _ => conforms_pure _

theorem conforms_checkRunning
    {service : Json.Members}
    (hfails : conduct.CoversHalf ctx (scenario settings).resources needed)
    (hread : conduct.Reads)
    (hstore : ∀ path, service.textAt "watch_path" = .ok path →
      conduct.permission.Allows [] (storeRequest path))
    (hrule : conduct.outage ≠ .endsAtOnce) :
    Conforms conduct (checkRunning settings ctx service) := by
  refine conforms_bind (conforms_checkTemplates hread) fun _ => ?_
  refine conforms_liftM_bind ((failsWithin_textAt _ _).mono conduct.ofService) fun path hpath => ?_
  exact conforms_bind (conforms_checkStored hfails hread hrule) fun _ =>
    conforms_checkUpdates hread (hstore path hpath)

/-- Whatever the stop meets is dropped in favour of the failure of the checks. -/
theorem conforms_checkAndStop
    {service : Json.Members}
    (hfails : conduct.CoversHalf ctx (scenario settings).resources needed)
    (hread : conduct.Reads)
    (hstore : ∀ path, service.textAt "watch_path" = .ok path →
      conduct.permission.Allows [] (storeRequest path))
    (hstop : ∀ path, service.textAt "stop_path" = .ok path →
      conduct.permission.Allows [] (commandRequest path))
    (hfree : conduct.outage = .free) :
    Conforms conduct (checkAndStop settings ctx service) := by
  have hrule : conduct.outage ≠ .endsAtOnce := by
    rw [hfree]
    decide
  have hserving := failsWithin_watcherService hfails
  refine conforms_attempt_bind (conforms_checkRunning hfails hread hstore hrule)
    (fun _ => conforms_stop hserving hread hstop hrule) (fun failure => ?_) (Or.inl hfree)
  have hwider : FailsWithin (conduct.allowing failure).Fails
      (ctx.serving Capability.watcherService) := hserving.mono fun _ => Or.inl
  refine conforms_attempt_bind (conforms_stop hwider hread hstop hrule)
    (fun _ => conforms_fail (Or.inr rfl)) (fun _ => ?_) (Or.inl hfree)
  exact conforms_bind (conforms_note _ _ _) fun _ => conforms_fail (Or.inl (Or.inr rfl))

end Checks

/-! ## The halves -/

section Halves

variable {conduct : Conduct} {settings : WatcherSettings} {ctx : ScenarioContext}

theorem refs_of_runs_forEach
    {names : List String} {refs : List ResourceRef} {before after : Session} {events : List Event}
    (hrun : (forEach names fun name => Action.ofExcept (ctx.resource name)).Runs before events
      (.ok refs) after) :
    refs = names.map fun name => ⟨name, "index"⟩ := by
  induction names generalizing before after events refs with
  | nil =>
      obtain ⟨_, hrefs, _⟩ := runs_pure_iff.mp hrun
      cases hrefs
      rfl
  | cons name rest ih =>
      obtain ⟨ref, _, _, _, _, href, hrest⟩ := runs_bind_ok_iff.mp hrun
      obtain ⟨others, _, _, _, _, hothers, hend⟩ := runs_bind_ok_iff.mp hrest
      obtain ⟨_, hresource, _⟩ := runs_ofExcept_iff.mp href
      obtain ⟨_, hrefs, _⟩ := runs_pure_iff.mp hend
      cases hrefs
      rw [ih hothers, (ScenarioContext.resource_eq_ok_iff.mp hresource.symm).1]
      rfl

/-- The migration of the stores asks which need it, and triggers none but these. -/
theorem conforms_migrateStores
    (hfails : conduct.CoversHalf ctx (scenario settings).resources needed)
    (hassistance : conduct.permission.Allows []
      (Migration.assistanceRequest ctx.harness.assistancePath))
    (hupgrade : ∀ answer, ∀ store ∈ stores, Migration.Classifies answer ⟨store, "index"⟩ .required →
      conduct.permission.Allows [⟨Migration.assistanceRequest ctx.harness.assistancePath, answer⟩]
        (Migration.upgradeRequest ctx.harness.upgradePath ⟨store, "index"⟩))
    (hrule : conduct.outage ≠ .endsAtOnce) :
    Conforms conduct (migrateStores settings ctx) := by
  refine conforms_bind_of_runs (conforms_forEach fun store hmem => ?_) fun hrefs => ?_
  · refine conforms_ofExcept (failsWithin_resource hfails ?_)
    exact List.mem_append_left _ (List.mem_append_left _ (List.mem_map_of_mem hmem))
  obtain rfl := refs_of_runs_forEach hrefs
  refine Conforms.after ?_ _
  refine conforms_bind (Migration.conforms_migratePending hassistance ?_ hrule) fun outcomes => ?_
  · rintro answer ref hmem hrequired
    obtain ⟨store, hstore, rfl⟩ := List.mem_map.mp hmem
    exact hupgrade answer store hstore hrequired
  refine conforms_bind (conforms_each fun entry _ => conforms_note _ _ _) fun _ => ?_
  exact conforms_bind (Migration.conforms_detect hassistance) fun remaining =>
    conforms_judging (failsWithin_check _ _)

theorem conforms_create
    (hfails : conduct.CoversHalf ctx (scenario settings).resources needed)
    (hwrite : conduct.Writes)
    (hrule : conduct.outage ≠ .endsAtOnce) :
    Conforms conduct (create settings ctx) := by
  have hserving := failsWithin_watcherService hfails
  have houtput : (⟨outputIndex, "index"⟩ : ResourceRef) ∈ (scenario settings).resources :=
    List.mem_append_left _ (List.mem_append_right _ List.mem_cons_self)
  refine conforms_bind (conforms_liftM hserving) fun service => ?_
  refine conforms_bind (conforms_each fun entry hmem => ?_) fun _ => ?_
  · have hdeclared := mem_resources_of_mem_watches settings (List.mem_map_of_mem hmem)
    refine conforms_liftM_bind (failsWithin_resource hfails hdeclared) fun ref _ => ?_
    refine conforms_bind (conforms_judging (failsWithin_textAt _ _)) fun watchPath => ?_
    refine conforms_bind (conforms_call (hwrite _ _)) fun response => ?_
    exact conforms_bind (conforms_judging (failsWithin_requireOk _ _)) fun _ => conforms_note _ _ _
  refine conforms_bind (Health.conforms_await (failsWithin_health hfails) hwrite.reads) fun _ => ?_
  refine conforms_liftM_bind (failsWithin_resource hfails houtput) fun output _ => ?_
  refine conforms_bind (conforms_awaitHits hwrite.reads hrule) fun _ => ?_
  exact conforms_bind (conforms_awaitHits hwrite.reads hrule) fun _ => conforms_pure _

theorem conforms_verify
    (hfails : conduct.CoversHalf ctx (scenario settings).resources needed)
    (hread : conduct.Reads)
    (hupgrade : ∀ answer store, Migration.Classifies answer store .required →
      conduct.permission.Allows [⟨Migration.assistanceRequest ctx.harness.assistancePath, answer⟩]
        (Migration.upgradeRequest ctx.harness.upgradePath store))
    (hcommand : ∀ service, ∀ key ∈ ["start_path", "stop_path"], ∀ path,
      ctx.serving Capability.watcherService = .ok service →
      service.textAt key = .ok path →
      conduct.permission.Allows [] (commandRequest path))
    (hstore : ∀ service path,
      ctx.serving Capability.watcherService = .ok service →
      service.textAt "watch_path" = .ok path →
      conduct.permission.Allows [] (storeRequest path))
    (hfree : conduct.outage = .free) :
    Conforms conduct (verify settings ctx) := by
  have hrule : conduct.outage ≠ .endsAtOnce := by
    rw [hfree]
    decide
  have hserving := failsWithin_watcherService hfails
  refine conforms_liftM_bind hserving fun service hservice => ?_
  refine conforms_bind (Health.conforms_await (failsWithin_health hfails) hread) fun _ => ?_
  refine conforms_bind (conforms_migrateStores hfails (hread rfl)
    (fun answer store _ => hupgrade answer _) hrule) fun _ => ?_
  refine conforms_liftM_bind ((failsWithin_textAt _ _).mono conduct.ofService) fun path hpath => ?_
  refine conforms_bind (conforms_startWatcher hserving hread ?_ hrule) fun _ => ?_
  · exact hcommand service "start_path" (by decide) path hservice hpath
  exact conforms_checkAndStop hfails hread (fun path => hstore service path hservice)
    (fun path => hcommand service "stop_path" (by decide) path hservice) hfree

end Halves

end Watcher
end RestartCheck
