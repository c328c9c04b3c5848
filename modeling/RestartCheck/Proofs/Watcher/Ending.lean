import RestartCheck.Proofs.Capability.Gates
import RestartCheck.Proofs.Scenario.Writes
import RestartCheck.Proofs.Watcher.Shutdown

/-!
# One stop after the checks

Once the second half of the watcher scenario has reached its checks, it posts the stop exactly once,
behind the last request of the checks.  When the checks fail their failure is the one reported,
whatever becomes of the stop; when they succeed the half ends as the stop ends.

**Algorithm.**  The half is cut where the checks begin.  What stands before them posts migrations of
the stores and the start, the checks post nothing, and the stop posts once and then reads states.
None of these is a post to the path of the stop but the one command, since that path belongs to the
stop alone.

**Results.**
* `hasOwnStop_of_standard`: with the capabilities built in the stop has a path of its own.
* `sends_reachChecks`: nothing before the checks posts to that path.
* `stops_once_of_runs_postUpgrade`: every run of the half.
-/

namespace RestartCheck
namespace Watcher

open RestartCheck.Action Trace

/-- The request posts to the path, with parameters or without. -/
def PostsTo
    (path : String)
    (request : Request) : Prop :=
  request.method = "POST" ∧ request.path = path

/-- The service can be stopped, under a path that neither its start nor a migration of a store
has. -/
structure HasOwnStop
    (ctx : ScenarioContext)
    (service : Json.Members)
    (stopPath : String) : Prop where
  serving : ctx.serving Capability.watcherService = .ok service
  stop : service.textAt "stop_path" = .ok stopPath
  start : service.textAt "start_path" ≠ .ok stopPath
  upgrade : ∀ store ∈ stores, ctx.harness.upgradePath ++ "/" ++ store ≠ stopPath

/-- The half up to its checks. -/
def reachChecks
    (settings : WatcherSettings)
    (ctx : ScenarioContext) : Action Json.Members := do
  let service ← ctx.serving Capability.watcherService
  let _ ← Health.await ctx.harness.table ctx.config.oldVersion (some healthResources)
  migrateStores settings ctx
  startWatcher settings ctx (← service.textAt "start_path")
  return service

section Ending

variable {settings : WatcherSettings} {ctx : ScenarioContext} {service : Json.Members}
  {stopPath : String} {before after : Session} {events : List Event}

theorem verify_eq_reachChecks
    (settings : WatcherSettings)
    (ctx : ScenarioContext) :
    verify settings ctx = reachChecks settings ctx >>= checkAndStop settings ctx := by
  simp only [verify, reachChecks, bind_assoc, pure_bind]

theorem not_postsTo_of_isRead
    {request : Request}
    (hread : request.IsRead) :
    ¬PostsTo stopPath request := by
  rintro ⟨hpost, _⟩
  exact absurd (hread.symm.trans hpost) (by decide)

/-- Paths that end with different letters are different. -/
theorem upgradePath_ne_stop
    {store : String}
    (upgradePath : String)
    (hstore : store ∈ stores) :
    upgradePath ++ "/" ++ store ≠ "/_xpack/watcher/_stop" := by
  intro heq
  have hlast := congrArg (fun path : String => path.toList.getLast?) heq
  simp only [stores, List.mem_cons, List.not_mem_nil, or_false] at hstore
  rcases hstore with rfl | rfl
  · simp at hlast
  · simp at hlast

/-- With the capabilities built in the stop has a path of its own. -/
theorem hasOwnStop_of_standard
    (htable : ctx.harness.table = Capability.standard)
    (hservice : ctx.serving Capability.watcherService = .ok service) :
    HasOwnStop ctx service "/_xpack/watcher/_stop" := by
  have hresolved := hservice
  unfold ScenarioContext.serving at hresolved
  rw [htable] at hresolved
  obtain rfl := CapabilityTable.descriptor_of_resolve_single rfl hresolved
  refine ⟨hservice, rfl, ?_, fun store hstore => upgradePath_ne_stop _ hstore⟩
  intro hstart
  have hpath : ("/_xpack/watcher/_start" : String) = "/_xpack/watcher/_stop" :=
    Except.ok.inj hstart
  exact absurd hpath (by decide)

theorem sends_reachChecks
    (hown : HasOwnStop ctx service stopPath) :
    Sends (fun request => ¬PostsTo stopPath request) (reachChecks settings ctx) := by
  have hread : (Conduct.sending fun request => ¬PostsTo stopPath request).Reads :=
    fun _ _ => not_postsTo_of_isRead
  refine Conforms.sends (conforms_liftM_bind (fun _ _ => trivial) fun known hknown => ?_)
  cases hown.serving.symm.trans hknown
  refine conforms_bind (Health.conforms_await (fun _ _ => trivial) hread) fun _ => ?_
  refine conforms_bind (conforms_migrateStores (fun _ _ => trivial) (hread rfl) ?_ nofun)
    fun _ => ?_
  · rintro answer store hstore _ ⟨_, hpath⟩
    exact hown.upgrade store hstore hpath
  refine conforms_liftM_bind (fun _ _ => trivial) fun startPath hstart => ?_
  refine conforms_bind (conforms_startWatcher (fun _ _ => trivial) hread ?_ nofun)
    fun _ => conforms_pure _
  rintro ⟨_, rfl⟩
  exact hown.start hstart

/-- The checks are reached with the service that the capabilities give. -/
theorem serving_of_runs_reachChecks
    (hrun : (reachChecks settings ctx).Runs before events (.ok service) after) :
    ctx.serving Capability.watcherService = .ok service := by
  obtain ⟨found, hfound, hreaching⟩ := runs_liftM_bind_ok_iff.mp hrun
  obtain ⟨_, _, _, _, _, _, hmigrating⟩ := runs_bind_ok_iff.mp hreaching
  obtain ⟨_, _, _, _, _, _, hpath⟩ := runs_bind_ok_iff.mp hmigrating
  obtain ⟨_, _, hstarting⟩ := runs_liftM_bind_ok_iff.mp hpath
  obtain ⟨_, _, _, _, _, _, hend⟩ := runs_bind_ok_iff.mp hstarting
  obtain ⟨_, hsame, _⟩ := runs_pure_iff.mp hend
  cases hsame
  exact hfound

/-- The checks write by putting only. -/
theorem sends_checks
    (service : Json.Members) :
    Sends (fun request => ¬PostsTo stopPath request) (checkRunning settings ctx service) := by
  refine Conforms.sends (conforms_checkRunning (fun _ _ => trivial)
    (fun _ _ => not_postsTo_of_isRead) (fun watchPath _ => ?_) nofun)
  rintro ⟨hpost, _⟩
  have hput : "PUT" = "POST" := hpost
  exact absurd hput (by decide)

end Ending

/-- **One stop after the checks.**  A run of the half either fails before the checks, and then
nothing was posted to the path of the stop; or it reaches them.  Then the stop is posted exactly
once in the run, behind the last request of the checks.  The failure of checks that fail is the one
reported, however the stop ends; after checks that succeed the half ends as the stop does. -/
theorem stops_once_of_runs_postUpgrade
    (settings : WatcherSettings)
    (ctx : ScenarioContext)
    (service : Json.Members)
    (stopPath : String)
    (before after : Session)
    (events : List Event)
    (result : Except Failure Unit)
    (hown : HasOwnStop ctx service stopPath)
    (hrun : ((scenario settings).postUpgrade ctx).Runs before events result after) :
    (∃ failure,
      result = .error failure ∧
      (reachChecks settings ctx).Runs before events (.error failure) after ∧
      ∀ exchange ∈ exchanges events, ¬PostsTo stopPath exchange.request)
    ∨
    ∃ reaching checking stopping checked stopped start middle answer polled,
      (reachChecks settings ctx).Runs before reaching (.ok service) start ∧
      (checkRunning settings ctx service).Runs start checking checked middle ∧
      (stop settings ctx service).Runs middle stopping stopped after ∧
      exchanges events =
        exchanges reaching ++ exchanges checking
          ++ ⟨commandRequest stopPath, answer⟩ :: polled ∧
      (∀ exchange ∈ exchanges reaching ++ exchanges checking ++ polled,
        ¬PostsTo stopPath exchange.request) ∧
      (∀ failure, checked = .error failure → result = .error failure) ∧
      (checked = .ok () → result = stopped) := by
  have hverify : (verify settings ctx).Runs before events result after := hrun
  rw [verify_eq_reachChecks] at hverify
  rcases runs_bind_iff.mp hverify with
    ⟨known, start, reaching, rest, rfl, hreached, hrest⟩ | ⟨failure, rfl, hfailed⟩
  · cases hown.serving.symm.trans (serving_of_runs_reachChecks hreached)
    obtain ⟨checked, stopped, middle, checking, stopping, hparts, hchecking, hstopping, hresult⟩ :=
      exists_stop_of_runs_checkAndStop hrest
    obtain ⟨answer, polled, hstop, hpolled, _⟩ := exists_answer_of_runs_stop hown.stop hstopping
    refine Or.inr ⟨reaching, checking, stopping, checked, stopped, start, middle, answer, polled,
      hreached, hchecking, hstopping, ?_, ?_, ?_, ?_⟩
    · rw [exchanges_append, hparts, hstop, List.append_assoc]
    · intro exchange hmem
      rcases List.mem_append.mp hmem with hmem | hmem
      · rcases List.mem_append.mp hmem with hmem | hmem
        · exact sends_reachChecks hown hreached exchange hmem
        · exact sends_checks service hchecking exchange hmem
      · obtain ⟨statsPath, hlook⟩ := hpolled exchange hmem
        rw [hlook]
        exact not_postsTo_of_isRead rfl
    · rintro failure rfl
      exact hresult
    · rintro rfl
      exact hresult
  · exact Or.inl ⟨failure, rfl, hfailed, sends_reachChecks hown hfailed⟩

/-- A half that passes has posted the stop once. -/
theorem stops_once_in_passing_run :
    ∃ service events front answer back,
      HasOwnStop standardContext service "/_xpack/watcher/_stop" ∧
      ((scenario {}).postUpgrade standardContext).Runs {} events (.ok ()) settledSession ∧
      exchanges events = front ++ ⟨commandRequest "/_xpack/watcher/_stop", answer⟩ :: back ∧
      ∀ exchange ∈ front ++ back, ¬PostsTo "/_xpack/watcher/_stop" exchange.request := by
  obtain ⟨events, _, hrun⟩ := canSucceed_postUpgrade
  obtain ⟨service, hservice⟩ : ∃ service,
      standardContext.serving Capability.watcherService = .ok service := ⟨_, rfl⟩
  have hown := hasOwnStop_of_standard rfl hservice
  rcases stops_once_of_runs_postUpgrade _ _ _ _ _ _ _ _ hown hrun with
    ⟨_, hfailed, _⟩ |
    ⟨reaching, checking, _, _, _, _, _, answer, polled, _, _, _, hexchanges, honce, _⟩
  · cases hfailed
  · exact ⟨_, events, exchanges reaching ++ exchanges checking, answer, polled, hown, hrun,
      hexchanges, honce⟩

end Watcher
end RestartCheck
