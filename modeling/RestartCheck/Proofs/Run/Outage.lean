import RestartCheck.Run.Phase
import RestartCheck.Proofs.Effect.Rehearsed
import RestartCheck.Proofs.Run.Visits
import RestartCheck.Proofs.Scenario.Outage

/-!
# Runs with the service out of reach

When the service gets out of reach in a half, the run is to end there: the scenario is recorded as
failed for this reason, the report is aborted, and no scenario behind it is run.  This is so unless
the half hides the outage, in which case the run goes on.

**Results.**
* `Account.abortsAt_iff`: a run ends at a visit exactly when the half reports an outage.
* `Run.aborts_unless_hidden_of_runs_phase`: a run of the built-in scenarios ends at every visit that
  meets an outage which is not hidden.
* `Run.hides_in_failedShutdown`: a run in which an outage is hidden.
-/

namespace RestartCheck

open RestartCheck.Action Trace

namespace Coordinator

/-! ## Where a run ends -/

section Ending

variable {visit : Visit} {earlier visits : List Visit} {unreached : List Scenario}

/-- A half that finds the service out of reach is recorded as failed. -/
theorem Visit.result_of_unreachable
    (config : RunConfig)
    {message : String}
    (houtcome : visit.outcome = some (.error (.unreachable message))) :
    visit.result config =
      .ok ⟨visit.scenario.name, .failed, some message, some "Unreachable"⟩ := by
  obtain ⟨scenario, before, course⟩ := visit
  cases course with
  | unjudged failure => cases houtcome
  | skipped => cases houtcome
  | invoked invocation =>
      rw [Visit.result, houtcome]
      rfl

theorem EndAtFirstStop.exists_earlier
    (hends : EndAtFirstStop visits unreached)
    (hmem : visit ∈ visits)
    (hlast : visit.IsLast) :
    ∃ earlier, visits = earlier ++ [visit] := by
  induction visits with
  | nil => cases hmem
  | cons first rest ih =>
      rcases hends with ⟨_, rfl⟩ | ⟨hgoes, hends⟩
      · exact ⟨[], by rw [List.mem_singleton.mp hmem]; rfl⟩
      · rcases List.mem_cons.mp hmem with rfl | hrest
        · exact absurd hlast hgoes
        · obtain ⟨earlier, rfl⟩ := ih hends hrest
          exact ⟨first :: earlier, rfl⟩

/-- The run goes on behind all visits but the last one. -/
theorem EndAtFirstStop.not_isLast
    (hends : EndAtFirstStop (earlier ++ [visit]) unreached) :
    ∀ other ∈ earlier, ¬other.IsLast := by
  induction earlier with
  | nil => simp
  | cons first rest ih =>
      rw [List.cons_append] at hends
      rcases hends with ⟨_, hnone⟩ | ⟨hgoes, hends⟩
      · simp at hnone
      · exact List.forall_mem_cons.mpr ⟨hgoes, ih hends⟩

/-- A run that has made its last visit is aborted for the reason of this visit. -/
theorem EndAtFirstStop.findSome?_eq
    (hends : EndAtFirstStop (earlier ++ [visit]) unreached) :
    (earlier ++ [visit]).findSome? Visit.abort? = visit.abort? := by
  have hnone : ∀ other ∈ earlier, other.abort? = none := fun other hmem =>
    Option.eq_none_iff_forall_ne_some.mpr fun message habort =>
      hends.not_isLast other hmem (Or.inl ⟨message, habort⟩)
  rw [List.findSome?_append, List.findSome?_eq_none_iff.mpr hnone]
  simp

/-- Visits behind which the run goes on have results. -/
theorem exists_results_of_not_isLast
    (config : RunConfig)
    (hgoes : ∀ visit ∈ visits, ¬visit.IsLast) :
    ∃ told, List.Forall₂ (fun visit result => visit.result config = .ok result) visits told := by
  induction visits with
  | nil => exact ⟨[], .nil⟩
  | cons visit rest ih =>
      obtain ⟨hfirst, hrest⟩ := List.forall_mem_cons.mp hgoes
      obtain ⟨told, hall⟩ := ih hrest
      obtain ⟨result, hresult, _⟩ := Visit.exists_result_of_not_isLast hfirst config
      exact ⟨result :: told, .cons hresult hall⟩

end Ending

namespace Account

/-- The run ends with the visit: the scenario is recorded as failed because the service is out of
reach, the report is aborted for the same reason, and the scenarios behind it are not run. -/
def AbortsAt
    (account : Account)
    (config : RunConfig)
    (visit : Visit) : Prop :=
  ∃ earlier told report message,
    account.visits = earlier ++ [visit] ∧
    account.ending config = .ok report ∧
    List.Forall₂ (fun visit result => visit.result config = .ok result) earlier told ∧
    report.results =
      told ++
        ⟨visit.scenario.name, .failed, some message, some "Unreachable"⟩ ::
          account.unreached.map notRun ∧
    report.aborted = true ∧
    report.abortReason = some message

theorem abortsAt_iff
    {account : Account} {config : RunConfig} {visit : Visit}
    (hends : EndAtFirstStop account.visits account.unreached)
    (hmem : visit ∈ account.visits) :
    account.AbortsAt config visit ↔
      ∃ message, visit.outcome = some (.error (.unreachable message)) := by
  constructor
  · rintro ⟨earlier, told, report, message, hvisits, hending, _, _, _, hreason⟩
    obtain ⟨_, _, rfl⟩ := ending_eq_ok_iff.mp hending
    rw [hvisits] at hends
    have habort : visit.abort? = some message := by
      rw [← hends.findSome?_eq, ← hvisits]
      exact hreason
    exact ⟨message, abortOf_eq_some_iff.mp habort⟩
  · rintro ⟨message, houtcome⟩
    have habort : visit.abort? = some message := abortOf_eq_some_iff.mpr houtcome
    obtain ⟨earlier, hvisits⟩ := hends.exists_earlier hmem (Or.inl ⟨message, habort⟩)
    rw [hvisits] at hends
    have hreason : account.abort? = some message := by
      rw [Account.abort?, hvisits, hends.findSome?_eq, habort]
    obtain ⟨told, hall⟩ := exists_results_of_not_isLast config hends.not_isLast
    have hresult :
        visit.result config =
          .ok ⟨visit.scenario.name, .failed, some message, some "Unreachable"⟩ :=
      Visit.result_of_unreachable config houtcome
    have hresults : List.Forall₂ (fun visit result => visit.result config = .ok result)
        account.visits
        (told ++ [⟨visit.scenario.name, .failed, some message, some "Unreachable"⟩]) :=
      hvisits ▸ List.rel_append hall (.cons hresult .nil)
    refine ⟨earlier, told, _, message, hvisits, ending_eq_ok_iff.mpr ⟨_, hresults, rfl⟩, hall, ?_,
      ?_, hreason⟩
    · rw [List.append_assoc, List.singleton_append]
    · rw [hreason]
      rfl

end Account

/-! ## Visits that meet an outage -/

namespace Visit

/-- The service is out of reach in the half: for a request outside of any poll, or still when the
time of a poll is up. -/
def MeetsOutage (visit : Visit) : Prop :=
  ∃ invocation, visit.invocation? = some invocation ∧ ¬Unbroken invocation.events

/-- The half is the second one of the watcher scenario, and it hides that the service was out of
reach when the watcher was to be stopped. -/
def HidesOutage
    (visit : Visit)
    (settings : ScenarioSettings)
    (harness : Harness)
    (config : RunConfig) : Prop :=
  ∃ invocation,
    visit.invocation? = some invocation ∧
    visit.scenario = Watcher.scenario settings.watcher ∧
    config.phase = .postUpgrade ∧
    Watcher.HidesOutage settings.watcher ⟨config, harness, visit.scenario.toDeclaration⟩
      invocation.events invocation.outcome

variable {visit : Visit} {settings : ScenarioSettings} {table : CapabilityTable}
  {only : List String} {scenarios : List Scenario} {harness : Harness} {config : RunConfig}

/-- The entries that a run itself writes are not outages. -/
theorem unbroken_events
    (hquiet : ¬visit.MeetsOutage) :
    Unbroken (visit.events config) := by
  obtain ⟨scenario, before, course⟩ := visit
  cases course with
  | unjudged failure => exact followed_of_forall_not (by simp [events])
  | skipped => exact followed_of_forall_not (by simp [events, noted, Event.isOutage])
  | invoked invocation =>
      have hunbroken : Unbroken invocation.events :=
        of_not_not fun hbroken => hquiet ⟨invocation, rfl, hbroken⟩
      have hstarted : Unbroken
          [noted (bindContext before (contextOf config scenario)) .info "scenario_started"] :=
        followed_of_forall_not (by simp [noted, Event.isOutage])
      have hconcluded :
          Unbroken [concludingNote invocation.after scenario invocation.outcome] := by
        refine followed_of_forall_not fun event hmem => ?_
        rw [List.mem_singleton.mp hmem]
        unfold concludingNote
        split <;> simp [noted, Event.isOutage]
      exact hstarted.append (hunbroken.append hconcluded)

/-- The half of a visit that meets an outage ends with the service reported out of reach, exactly
when the outage is not hidden. -/
theorem unreachable_iff_not_hides
    (hbuild : Catalog.build settings table only = .ok scenarios)
    (hscenario : visit.scenario ∈ scenarios)
    (hsound : visit.IsSound harness config)
    (hmeets : visit.MeetsOutage) :
    (∃ message, visit.outcome = some (.error (.unreachable message))) ↔
      ¬visit.HidesOutage settings harness config := by
  obtain ⟨invocation, hinvocation, hbroken⟩ := hmeets
  have houtcome : visit.outcome = some invocation.outcome := by
    rw [Visit.outcome, hinvocation]
    rfl
  constructor
  · rintro ⟨message, hmessage⟩ ⟨other, hother, _, _, hhides⟩
    obtain rfl : invocation = other := Option.some.inj (hinvocation.symm.trans hother)
    obtain ⟨_, _, _, _, _, _, _, _, failure, _, _, _, _, _, _, hnone, hresult⟩ := hhides
    -- What hides the outage is another failure.
    rw [houtcome, hresult] at hmessage
    obtain rfl : failure = .unreachable message := by simpa using hmessage
    exact hnone ⟨message, rfl⟩
  · intro hshown
    have hrun := runs_half_of_isSound hsound hinvocation
    obtain ⟨wanted, hknown⟩ := Catalog.mem_all_of_mem_build hbuild hscenario
    rcases Catalog.surfaces_or_hides_of_runs_half hknown hrun with
      (hunbroken | ⟨message, hmessage⟩) | ⟨hwatcher, hphase, hhides⟩
    · exact absurd hunbroken hbroken
    · exact ⟨message, by rw [houtcome, failure?_eq_some_iff.mp hmessage]⟩
    · exact absurd ⟨invocation, hinvocation, hwatcher, hphase, hhides⟩ hshown

end Visit

end Coordinator

/-! ## Runs of the built-in scenarios -/

namespace Run

open RestartCheck.Coordinator

/-- The entry about one result of a report. -/
def resultNote
    (session : Session)
    (result : ScenarioResult) : Event :=
  noted session .info "scenario_result"
    [("scenario", .json (.string result.name)),
     ("status", .json (.string result.status.text)),
     ("reason", optionalText result.reason)]

/-- The entries about the results of a run that ends in a report. -/
def resultNotes
    (account : Account)
    (config : RunConfig)
    (after : Session) : List Event :=
  match account.ending config with
  | .ok report => report.results.map (resultNote after)
  | .error _ => []

/-- The events of a run of a phase: those of its visits, between the entries that the run writes. -/
def eventsOf
    (account : Account)
    (config : RunConfig)
    (scenarios : List Scenario)
    (before after : Session) : List Event :=
  runStarted before config scenarios ::
    (account.visits.flatMap (Visit.events · config) ++
      (account.closing config after ++ resultNotes account config after))

section Phase

variable {settings : Settings} {config : RunConfig} {table : CapabilityTable}
  {only : List String} {patience : Nat} {before after : Session} {events : List Event}
  {result : Except Failure RunReport}

/-- Telling the results of a report never fails. -/
theorem runs_tellResults_iff
    {report : RunReport} :
    Action.Runs (do
        each report.results noteResult
        return report) before events result after ↔
      events = report.results.map (resultNote before) ∧ result = .ok report ∧ after = before := by
  rw [runs_bind_iff]
  constructor
  · rintro (⟨_, middle, notes, rest, rfl, hnotes, hend⟩ | ⟨failure, _, hfailed⟩)
    · obtain ⟨rfl, _, rfl⟩ := runs_each_note_iff.mp hnotes
      obtain ⟨rfl, rfl, rfl⟩ := runs_pure_iff.mp hend
      exact ⟨List.append_nil _, rfl, rfl⟩
    · cases (runs_each_note_iff.mp hfailed).2.1
  · rintro ⟨rfl, rfl, rfl⟩
    exact Or.inl ⟨(), after, _, [], (List.append_nil _).symm,
      runs_each_note_iff.mpr ⟨rfl, rfl, rfl⟩, runs_pure_iff.mpr ⟨rfl, rfl, rfl⟩⟩

/-- Scenarios with names of their own are visited, and what becomes of them is told. -/
theorem exists_account_of_nodup
    {harness : Harness} {scenarios : List Scenario}
    (hwritten : ¬config.oldVersion.IsUnwritten)
    (hnodup : (scenarios.map fun scenario => scenario.name).Nodup)
    (hrun : Action.Runs (do
        let report ← Coordinator.run harness config scenarios
        each report.results noteResult
        return report) before events result after) :
    ∃ account : Account,
      account.Explains harness config scenarios before after ∧
      events = eventsOf account config scenarios before after ∧
      result = account.ending config := by
  rcases runs_bind_iff.mp hrun with
    ⟨report, middle, front, back, rfl, hreport, htold⟩ | ⟨failure, rfl, hfailed⟩
  · obtain ⟨account, hexplains, rfl, hresult⟩ := (runs_run_of_nodup hwritten hnodup).mp hreport
    obtain ⟨rfl, rfl, rfl⟩ := runs_tellResults_iff.mp htold
    refine ⟨account, hexplains, ?_, hresult⟩
    rw [eventsOf, resultNotes, ← hresult, List.cons_append, List.append_assoc]
  · obtain ⟨account, hexplains, rfl, hresult⟩ := (runs_run_of_nodup hwritten hnodup).mp hfailed
    refine ⟨account, hexplains, ?_, hresult⟩
    rw [eventsOf, resultNotes, ← hresult, List.append_nil]

/-- Nothing is done at an old version that is not written. -/
theorem eq_of_isUnwritten
    {harness : Harness} {scenarios : List Scenario}
    (hunwritten : config.oldVersion.IsUnwritten)
    (hnodup : (scenarios.map fun scenario => scenario.name).Nodup)
    (hrun : Action.Runs (do
        let report ← Coordinator.run harness config scenarios
        each report.results noteResult
        return report) before events result after) :
    events = [] ∧ result = .error .unwritten ∧ after = before := by
  rcases runs_bind_iff.mp hrun with
    ⟨report, middle, front, back, rfl, hreport, _⟩ | ⟨failure, rfl, hfailed⟩
  · cases ((runs_run_of_isUnwritten hunwritten hnodup).mp hreport).2.1
  · exact (runs_run_of_isUnwritten hunwritten hnodup).mp hfailed

/-- Scenarios are refused before anything is asked when they share a name, or when the old version
is not written. -/
theorem refused_or_exists_account_of_runs_scenarios
    {harness : Harness} {scenarios : List Scenario}
    (hrun : Action.Runs (do
        let report ← Coordinator.run harness config scenarios
        each report.results noteResult
        return report) before events result after) :
    (events = [] ∧ ∃ failure, result = .error failure)
    ∨
    (¬config.oldVersion.IsUnwritten ∧
      ∃ account : Account,
        account.Explains harness config scenarios before after ∧
        events = eventsOf account config scenarios before after ∧
        result = account.ending config) := by
  by_cases hnodup : (scenarios.map fun scenario => scenario.name).Nodup
  · by_cases hunwritten : config.oldVersion.IsUnwritten
    · obtain ⟨rfl, rfl, _⟩ := eq_of_isUnwritten hunwritten hnodup hrun
      exact Or.inl ⟨rfl, _, rfl⟩
    · exact Or.inr ⟨hunwritten, exists_account_of_nodup hunwritten hnodup hrun⟩
  · rcases runs_bind_iff.mp hrun with
      ⟨report, middle, front, back, rfl, hreport, _⟩ | ⟨failure, rfl, hfailed⟩
    · cases ((runs_run_of_not_nodup hnodup).mp hreport).2.1
    · exact Or.inl ⟨((runs_run_of_not_nodup hnodup).mp hfailed).1, failure, rfl⟩

/-- A run of a phase makes visits, unless it fails before anything is asked. -/
theorem refused_or_exists_account_of_runs_phase
    (hrun : (phase settings config table only patience).Runs before events result after) :
    (events = [] ∧ ∃ failure, result = .error failure)
    ∨
    (¬config.oldVersion.IsUnwritten ∧
      ∃ (harness : Harness) (scenarios : List Scenario) (account : Account),
        Harness.create table config patience = .ok harness ∧
        Catalog.build settings.scenarios table only = .ok scenarios ∧
        account.Explains harness config scenarios before after ∧
        events = eventsOf account config scenarios before after ∧
        result = account.ending config) := by
  rcases runs_liftM_bind_iff.mp hrun with
    ⟨harness, hharness, hbuilt⟩ | ⟨failure, _, hnone, hfailed, _⟩
  · rcases runs_liftM_bind_iff.mp hbuilt with
      ⟨scenarios, hbuild, hvisits⟩ | ⟨failure, _, hnone, hfailed, _⟩
    · refine (refused_or_exists_account_of_runs_scenarios hvisits).imp_right ?_
      rintro ⟨hwritten, account, haccount⟩
      exact ⟨hwritten, harness, scenarios, account, hharness, hbuild, haccount⟩
    · exact Or.inl ⟨hnone, failure, hfailed⟩
  · exact Or.inl ⟨hnone, failure, hfailed⟩

/-- Only a visit can meet an outage. -/
theorem exists_meetsOutage_of_not_unbroken
    {account : Account} {scenarios : List Scenario}
    (hbroken : ¬Unbroken (eventsOf account config scenarios before after)) :
    ∃ visit ∈ account.visits, visit.MeetsOutage := by
  by_contra hquiet
  have hstarted : Unbroken [runStarted before config scenarios] :=
    followed_of_forall_not (by simp [runStarted, noted, Event.isOutage])
  have hvisits : Unbroken (account.visits.flatMap (Visit.events · config)) :=
    unbroken_flatMap fun visit hmem =>
      Visit.unbroken_events fun hmeets => hquiet ⟨visit, hmem, hmeets⟩
  have hnotes : Unbroken (account.closing config after ++ resultNotes account config after) := by
    unfold Account.closing resultNotes
    cases account.ending config with
    | ok report =>
        exact followed_of_forall_not (by simp [runFinished, resultNote, noted, Event.isOutage])
    | error failure => exact followed_of_forall_not (by simp)
  exact hbroken (hstarted.append (hvisits.append hnotes))

end Phase

/-- **Outages.**  When a request outside of any poll does not reach the service, or a poll gives up
because the service is still out of reach, then some visit meets this outage.  A run ends at every
visit that meets an outage, unless the visit hides it: the second half of the watcher scenario hides
that the service is out of reach when the watcher is stopped after its checks have failed. -/
theorem aborts_unless_hidden_of_runs_phase
    (settings : Settings)
    (config : RunConfig)
    (table : CapabilityTable)
    (only : List String)
    (patience : Nat)
    (before after : Session)
    (events : List Event)
    (result : Except Failure RunReport)
    (hrun : (phase settings config table only patience).Runs before events result after)
    (hbroken : ¬Unbroken events) :
    ∃ (harness : Harness) (scenarios : List Scenario) (account : Account),
      Harness.create table config patience = .ok harness ∧
      Catalog.build settings.scenarios table only = .ok scenarios ∧
      account.Explains harness config scenarios before after ∧
      events = eventsOf account config scenarios before after ∧
      result = account.ending config ∧
      (∃ visit ∈ account.visits, visit.MeetsOutage) ∧
      ∀ visit ∈ account.visits, visit.MeetsOutage →
        (account.AbortsAt config visit ↔
          ¬visit.HidesOutage settings.scenarios harness config) := by
  have hevents : events ≠ [] := by
    rintro rfl
    exact hbroken trivial
  obtain ⟨_, harness, scenarios, account, hharness, hbuild, hexplains, rfl, rfl⟩ :=
    (refused_or_exists_account_of_runs_phase hrun).resolve_left fun h => hevents h.1
  refine ⟨harness, scenarios, account, hharness, hbuild, hexplains, rfl, rfl,
    exists_meetsOutage_of_not_unbroken hbroken, fun visit hmem hmeets => ?_⟩
  have hscenario : visit.scenario ∈ scenarios := by
    rw [hexplains.covers]
    exact List.mem_append_left _ (List.mem_map_of_mem hmem)
  rw [Account.abortsAt_iff hexplains.ends hmem]
  exact Visit.unreachable_iff_not_hides hbuild hscenario (hexplains.sound visit hmem) hmeets

/-- Before the upgrade, with a version that every built-in scenario is applicable to. -/
def beforeUpgrade : RunConfig where
  phase := .preUpgrade
  oldVersion := ⟨5, 6, 9, 99⟩
  upgradedVersion := none

/-- A service that is out of reach from the first request on. -/
def refusing : Rehearsal where
  routes := [("PUT /testsingledoc/doc/1", [{ answer := .error (.unreachable "refused") }])]

theorem aborts_in_refusing :
    ∃ (events : List Event) (report : RunReport) (after : Session) (account : Account)
        (visit : Visit),
      (phase {} beforeUpgrade Capability.standard [] 1).Runs {} events (.ok report) after ∧
      ¬Unbroken events ∧
      account.ending beforeUpgrade = .ok report ∧
      visit ∈ account.visits ∧
      account.AbortsAt beforeUpgrade visit := by
  obtain ⟨events, report, after, hrun, htest⟩ :=
    exists_runs_of_succeedsWith refusing {} (phase {} beforeUpgrade Capability.standard [] 1)
      (fun events _ => decide ¬Unbroken events) rfl (by decide +kernel)
  have hbroken : ¬Unbroken events := of_decide_eq_true htest
  obtain ⟨_, _, account, _, _, _, _, hreport, ⟨visit, hmem, hmeets⟩, hvisits⟩ :=
    aborts_unless_hidden_of_runs_phase _ _ _ _ _ _ _ _ _ hrun hbroken
  refine ⟨events, report, after, account, visit, hrun, hbroken, hreport.symm, hmem, ?_⟩
  refine (hvisits visit hmem hmeets).mpr ?_
  rintro ⟨_, _, _, hphase, _⟩
  cases hphase

/-- After the upgrade from the same version, to one that is not known. -/
def afterUpgrade : RunConfig :=
  { beforeUpgrade with phase := .postUpgrade }

/-- A service that starts the watcher, then fails to list its templates, and is out of reach when
the watcher is to be stopped. -/
def failedShutdown : Rehearsal where
  routes :=
    [("GET /_cluster/health/.watches,bwc_watch_index,.watcher-history*",
      [{ answer := .ok ⟨200, "\x7b\"timed_out\": false\x7d"⟩ }]),
     ("GET /_xpack/migration/assistance",
      [{ answer := .ok ⟨200, "\x7b\"indices\": \x7b\x7d\x7d"⟩ }]),
     ("POST /_xpack/watcher/_start",
      [{ answer := .ok ⟨200, "\x7b\"acknowledged\": true\x7d"⟩ }]),
     ("GET /_xpack/watcher/stats",
      [{ answer := .ok ⟨200, "\x7b\"stats\": [\x7b\"watcher_state\": \"started\"\x7d]\x7d"⟩ }]),
     ("GET /_template", [{ answer := .ok ⟨500, ""⟩ }]),
     ("POST /_xpack/watcher/_stop", [{ answer := .error (.unreachable "service gone") }]),
     ("POST /_xpack/sql", [{ answer := .ok ⟨400, IncompatibleIndex.expectedError⟩ }])]

/-- The run goes on behind the outage, and nothing in its report tells of it. -/
theorem hides_in_failedShutdown :
    ∃ events report after,
      (phase {} afterUpgrade Capability.standard ["watcher", "incompatible_index"] 2).Runs
        {} events (.ok report) after ∧
      ¬Unbroken events ∧
      report.aborted = false ∧
      report.results.map (fun result => (result.name, result.status, result.failureKind)) =
        [("watcher", .failed, some "ScenarioAssertionError"),
         ("incompatible_index", .passed, none)] := by
  obtain ⟨events, report, after, hrun, htest⟩ :=
    exists_runs_of_succeedsWith failedShutdown {}
      (phase {} afterUpgrade Capability.standard ["watcher", "incompatible_index"] 2)
      (fun events report => decide (¬Unbroken events ∧ report.aborted = false ∧
        report.results.map (fun result => (result.name, result.status, result.failureKind)) =
          [("watcher", .failed, some "ScenarioAssertionError"),
           ("incompatible_index", .passed, none)])) rfl (by decide +kernel)
  exact ⟨events, report, after, hrun, of_decide_eq_true htest⟩

end Run
end RestartCheck
