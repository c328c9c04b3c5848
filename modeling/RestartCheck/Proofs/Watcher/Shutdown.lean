import RestartCheck.Proofs.Watcher.Evidence

/-!
# When the watcher is stopped again

The second half of the watcher scenario starts the watcher and is to stop it again however it ends.
The stop is guaranteed from the checks on.  It is not requested when the half ends between the start
command and the checks: when the start is not acknowledged, or when the nodes are not all seen
started.

**Results.**
* `sends_awaitHealth`, `sends_migrateStores`: what precedes the start command sends no command.
* `exists_start_of_runs_postUpgrade`: what precedes the start command and what follows on it.
* `exists_runs_postUpgrade`: all that can follow on the start command does so in some run.
-/

namespace RestartCheck
namespace Watcher

open RestartCheck.Action Trace

section Shutdown

variable {settings : WatcherSettings} {ctx : ScenarioContext} {service : Json.Members}
  {startPath stopPath : String} {before after : Session} {events : List Event}

theorem ne_commandRequest_of_get
    {request : Request} {path : String}
    (hget : request.method = "GET") :
    request ≠ commandRequest path := by
  intro heq
  have hmethod : "GET" = "POST" := hget.symm.trans (congrArg Request.method heq)
  exact absurd hmethod (by decide)

/-- An upgrade is a post as well, but it has parameters. -/
theorem upgradeRequest_ne_commandRequest
    (upgradePath path : String)
    (ref : ResourceRef) :
    Migration.upgradeRequest upgradePath ref ≠ commandRequest path := by
  intro heq
  cases congrArg Request.params heq

/-- The migration of the stores sends no command. -/
theorem sends_migrateStores
    (path : String) :
    Sends (· ≠ commandRequest path) (migrateStores settings ctx) :=
  Conforms.sends (conforms_migrateStores (fun _ _ => trivial) (ne_commandRequest_of_get rfl)
    (fun _ _ _ _ => upgradeRequest_ne_commandRequest _ path _) nofun)

theorem sends_awaitHealth
    (path : String) :
    Sends (· ≠ commandRequest path)
      (Health.await ctx.harness.table ctx.config.oldVersion (some healthResources)) :=
  Conforms.sends (Health.conforms_await (fun _ _ => trivial)
    fun _ _ hread => ne_commandRequest_of_get hread)

/-- What precedes the start command, and what follows on it: the checks, unless the start fails. -/
theorem exists_start_of_runs_postUpgrade
    {result : Except Failure Unit} {command : Exchange}
    (hservice : ctx.serving Capability.watcherService = .ok service)
    (hstart : service.textAt "start_path" = .ok startPath)
    (hrun : ((scenario settings).postUpgrade ctx).Runs before events result after)
    (hmem : command ∈ exchanges events)
    (hcommand : command.request = commandRequest startPath) :
    ∃ preface starting rest started first last,
      exchanges events = preface ++ (exchanges starting ++ exchanges rest) ∧
      (∀ exchange ∈ preface, exchange.request ≠ commandRequest startPath) ∧
      (startWatcher settings ctx startPath).Runs first starting started last ∧
      ((started = .ok () ∧ (checkAndStop settings ctx service).Runs last rest result after) ∨
        ((∃ failure, started = .error failure) ∧ rest = [])) := by
  have hforbidden : ¬command.request ≠ commandRequest startPath := fun hne => hne hcommand
  have hhealth : Sends (· ≠ commandRequest startPath)
      (Health.await ctx.harness.table ctx.config.oldVersion (some healthResources)) :=
    sends_awaitHealth startPath
  rcases runs_liftM_bind_iff.mp hrun with ⟨known, hknown, hawaited⟩ | ⟨failure, hfailure, _⟩
  · cases hservice.symm.trans hknown
    rcases runs_bind_iff.mp hawaited with
      ⟨body, middle, healthy, _, rfl, hreached, hmigrating⟩ | ⟨failure, _, hfailed⟩
    · rcases runs_bind_iff.mp hmigrating with
        ⟨_, first, migrating, _, rfl, hmigrated, hpath⟩ | ⟨failure, _, hfailed⟩
      · rcases runs_liftM_bind_iff.mp hpath with ⟨path, hfound, hstarting⟩ | ⟨failure, hlost, _⟩
        · cases hstart.symm.trans hfound
          have hpreface : ∀ exchange ∈ exchanges healthy ++ exchanges migrating,
              exchange.request ≠ commandRequest startPath := by
            intro exchange hexchange
            rcases List.mem_append.mp hexchange with hexchange | hexchange
            · exact hhealth hreached exchange hexchange
            · exact sends_migrateStores startPath hmigrated exchange hexchange
          rcases runs_bind_iff.mp hstarting with
            ⟨_, last, starting, rest, rfl, hstarted, hchecks⟩ | ⟨failure, rfl, hfailed⟩
          · refine ⟨_, starting, rest, .ok (), first, last, ?_, hpreface, hstarted,
              Or.inl ⟨rfl, hchecks⟩⟩
            simp
          · refine ⟨_, _, [], .error failure, first, after, ?_, hpreface, hfailed,
              Or.inr ⟨⟨failure, rfl⟩, rfl⟩⟩
            simp
        · cases hstart.symm.trans hlost
      · rw [exchanges_append] at hmem
        rcases List.mem_append.mp hmem with hmem | hmem
        · exact absurd hmem (hhealth.not_mem hreached hforbidden)
        · exact absurd hmem ((sends_migrateStores startPath).not_mem hfailed hforbidden)
    · exact absurd hmem (hhealth.not_mem hfailed hforbidden)
  · cases hservice.symm.trans hfailure

/-- **When the stop is requested.**  After the start command the stop is requested exactly when the
answer acknowledges the start, and a later answer has every node started. -/
theorem stop_requested_iff_of_runs_postUpgrade
    (settings : WatcherSettings)
    (ctx : ScenarioContext)
    (service : Json.Members)
    (startPath stopPath : String)
    (before after : Session)
    (events : List Event)
    (result : Except Failure Unit)
    (front back : List Exchange)
    (answer : Except Failure Response)
    (hservice : ctx.serving Capability.watcherService = .ok service)
    (hstart : service.textAt "start_path" = .ok startPath)
    (hstop : service.textAt "stop_path" = .ok stopPath)
    (hrun : ((scenario settings).postUpgrade ctx).Runs before events result after)
    (hsplit : exchanges events = front ++ ⟨commandRequest startPath, answer⟩ :: back)
    (hfirst : ∀ exchange ∈ front, exchange.request ≠ commandRequest startPath) :
    (∃ exchange ∈ back, exchange.request = commandRequest stopPath) ↔
      Acknowledged startPath ⟨commandRequest startPath, answer⟩ ∧
      ∃ statsPath,
        service.textAt "stats_path" = .ok statsPath ∧
        ∃ exchange ∈ back, Reports statsPath "started" exchange := by
  have hmem : (⟨commandRequest startPath, answer⟩ : Exchange) ∈ exchanges events := by
    rw [hsplit]
    simp
  obtain ⟨preface, starting, rest, started, first, last, hexchanges, hpreface, hstarted, hrest⟩ :=
    exists_start_of_runs_postUpgrade hservice hstart hrun hmem rfl
  obtain ⟨given, polled, hgiven, hpolled, hresult⟩ := exists_answer_of_runs_command hstarted
  rw [hexchanges, hgiven, List.cons_append] at hsplit
  obtain ⟨hsame, rfl⟩ := eq_of_first hsplit hpreface hfirst rfl rfl
  cases hsame
  rcases hrest with ⟨rfl, hchecks⟩ | ⟨⟨failure, rfl⟩, rfl⟩
  · obtain ⟨hacknowledged, known, statsPath, hknown, hstats, exchange, hexchange, hreports⟩ :=
      hresult.mp rfl
    cases hservice.symm.trans hknown
    refine iff_of_true ?_ ⟨hacknowledged, statsPath, hstats, exchange,
      List.mem_append_left _ hexchange, hreports⟩
    obtain ⟨checked, stopped, middle, checking, stopping, hparts, _, hstopping, _⟩ :=
      exists_stop_of_runs_checkAndStop hchecks
    obtain ⟨reply, later, hreply, _⟩ := exists_answer_of_runs_stop hstop hstopping
    refine ⟨⟨commandRequest stopPath, reply⟩, ?_, rfl⟩
    rw [hparts, hreply]
    simp
  · rw [exchanges_nil, List.append_nil]
    constructor
    · rintro ⟨exchange, hexchange, hrequest⟩
      obtain ⟨statsPath, hlook⟩ := hpolled exchange hexchange
      exact absurd (hlook.symm.trans hrequest) (ne_commandRequest_of_get rfl)
    · rintro ⟨hacknowledged, statsPath, hstats, hreports⟩
      cases hresult.mpr ⟨hacknowledged, service, statsPath, hservice, hstats, hreports⟩

/-! ## A start that is refused -/

/-- Everything that can follow on the preface follows on it in some run of the half. -/
theorem exists_runs_postUpgrade
    {result : Except Failure Unit}
    (hservice : standardContext.serving Capability.watcherService = .ok service)
    (hrun : Action.Runs (do
        startWatcher {} standardContext "/_xpack/watcher/_start"
        checkAndStop {} standardContext service) settledSession events result after) :
    ∃ all preface,
      ((scenario {}).postUpgrade standardContext).Runs {} all result after ∧
      exchanges all = preface ++ exchanges events ∧
      ∀ path, ∀ exchange ∈ preface, exchange.request ≠ commandRequest path := by
  obtain ⟨healthy, body, hawaited⟩ := partsSucceed.await
  obtain ⟨migrating, _, hmigrated⟩ := partsSucceed.migrateStores
  cases hservice
  refine ⟨healthy ++ (migrating ++ events), exchanges healthy ++ exchanges migrating, ?_, ?_, ?_⟩
  · refine runs_liftM_bind_iff.mpr (Or.inl ⟨_, rfl, ?_⟩)
    refine runs_bind_iff.mpr (Or.inl ⟨body, {}, healthy, _, rfl, hawaited, ?_⟩)
    refine runs_bind_iff.mpr (Or.inl ⟨_, settledSession, migrating, events, rfl, hmigrated, ?_⟩)
    exact runs_liftM_bind_iff.mpr (Or.inl ⟨_, rfl, hrun⟩)
  · simp
  · intro path exchange hmem
    rcases List.mem_append.mp hmem with hmem | hmem
    · exact sends_awaitHealth path hawaited exchange hmem
    · exact sends_migrateStores path hmigrated exchange hmem

/-- An answer that does not acknowledge the start ends the start at once. -/
theorem runs_startWatcher_of_refused
    {path text : String} {body : Json.Members}
    (hbody : (⟨200, text⟩ : Response).object = .ok body)
    (hrefused : (body.getOrNull "acknowledged").isTrue = false) :
    (startWatcher settings ctx path).Runs before
      [⟨.call (commandRequest path), .ok ⟨200, text⟩⟩]
      (.error (.assertion "watcher start not acknowledged")) before := by
  have hcheck : check (body.getOrNull "acknowledged").isTrue "watcher start not acknowledged" =
      .error (.assertion "watcher start not acknowledged") := by
    rw [hrefused]
    rfl
  have hchecked : requireOk ⟨200, text⟩ "starting watcher" = .ok ⟨200, text⟩ :=
    requireOk_eq_ok_iff.mpr ⟨rfl, rfl⟩
  refine runs_call_bind_iff.mpr (Or.inl ⟨_, [], rfl, ?_⟩)
  refine runs_liftM_bind_iff.mpr (Or.inl ⟨_, hchecked, ?_⟩)
  refine runs_liftM_bind_iff.mpr (Or.inl ⟨body, hbody, ?_⟩)
  exact runs_liftM_bind_iff.mpr (Or.inr ⟨_, hcheck, rfl, rfl, rfl⟩)

theorem stop_requested_in_passing_run :
    ∃ service events front answer back,
      standardContext.serving Capability.watcherService = .ok service ∧
      service.textAt "start_path" = .ok "/_xpack/watcher/_start" ∧
      service.textAt "stop_path" = .ok "/_xpack/watcher/_stop" ∧
      ((scenario {}).postUpgrade standardContext).Runs {} events (.ok ()) settledSession ∧
      exchanges events =
        front ++ ⟨commandRequest "/_xpack/watcher/_start", answer⟩ :: back ∧
      (∀ exchange ∈ front, exchange.request ≠ commandRequest "/_xpack/watcher/_start") ∧
      ∃ exchange ∈ back, exchange.request = commandRequest "/_xpack/watcher/_stop" := by
  obtain ⟨starting, _, hstarted⟩ := partsSucceed.startWatcher
  obtain ⟨checking, _, hchecks⟩ := canSucceed_checkAndStop rfl
  obtain ⟨events, preface, hrun, hexchanges, hpreface⟩ := exists_runs_postUpgrade rfl
    (runs_bind_iff.mpr (Or.inl ⟨_, _, starting, checking, rfl, hstarted, hchecks⟩))
  obtain ⟨answer, polled, hanswer, _, hresult⟩ := exists_answer_of_runs_command hstarted
  obtain ⟨hacknowledged, service, statsPath, hservice, hstats, exchange, hmem, hreports⟩ :=
    hresult.mp rfl
  have hsplit : exchanges events = preface ++
      ⟨commandRequest "/_xpack/watcher/_start", answer⟩ :: (polled ++ exchanges checking) := by
    rw [hexchanges, exchanges_append, hanswer, List.cons_append]
  cases hservice
  refine ⟨_, events, preface, answer, polled ++ exchanges checking, rfl, rfl, rfl, hrun, hsplit,
    hpreface _, ?_⟩
  refine (stop_requested_iff_of_runs_postUpgrade {} standardContext _ _ _ _ _ _ _ _ _ _ rfl rfl rfl
    hrun hsplit (hpreface _)).mpr ⟨hacknowledged, statsPath, hstats, exchange, ?_, hreports⟩
  exact List.mem_append_left _ hmem

/-- A start that is answered with success but not acknowledged is the last command sent. -/
theorem no_stop_after_refused_start :
    ∃ events front,
      ((scenario {}).postUpgrade standardContext).Runs {} events
        (.error (.assertion "watcher start not acknowledged")) settledSession ∧
      exchanges events = front ++
        [⟨commandRequest "/_xpack/watcher/_start", .ok ⟨200, "\x7b\"acknowledged\": false\x7d"⟩⟩] ∧
      ∀ exchange ∈ exchanges events,
        exchange.request ≠ commandRequest "/_xpack/watcher/_stop" := by
  have hrefusal : holdsObject (fun body => !(body.getOrNull "acknowledged").isTrue)
      "\x7b\"acknowledged\": false\x7d".toList = true := by decide +kernel
  obtain ⟨body, hbody, hrefused⟩ := exists_object_of_chars 200 _ (by decide) hrefusal
  rw [String.ofList_toList] at hbody
  have hstarted : (startWatcher {} standardContext "/_xpack/watcher/_start").Runs settledSession
      _ _ settledSession := runs_startWatcher_of_refused hbody (by simpa using hrefused)
  obtain ⟨events, preface, hrun, hexchanges, hpreface⟩ := exists_runs_postUpgrade rfl
    (runs_bind_iff.mpr (Or.inr ⟨_, rfl, hstarted⟩))
  refine ⟨events, preface, hrun, hexchanges, ?_⟩
  intro exchange hmem
  rw [hexchanges] at hmem
  rcases List.mem_append.mp hmem with hmem | hmem
  · exact hpreface _ exchange hmem
  · rw [List.mem_singleton.mp hmem]
    intro heq
    have hpath : "/_xpack/watcher/_start" = "/_xpack/watcher/_stop" := congrArg Request.path heq
    exact absurd hpath (by decide)

end Shutdown

end Watcher
end RestartCheck
