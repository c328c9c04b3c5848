import RestartCheck.Proofs.Capability.Support
import RestartCheck.Proofs.Run.Report

/-!
# Nothing is skipped midway

A half that misses a capability is recorded as skipped, just like a scenario that is inapplicable.
With the built-in table this never happens to a half: a scenario that is applicable finds every
capability that its halves look up, at the old version as well as at the version that answers
requests.  So a skipped scenario is an inapplicable one.

**Algorithm.**  Every failure of a half is one that the service brings about, one that came in place
of an answer, or one of a lookup.  The lookups of an applicable scenario succeed because support
only grows from the old version to the one that answers requests.

**Results.**
* `Catalog.supports_needed`: an applicable scenario finds what its halves look up.
* `Visit.ne_unsupported`: no half misses a capability.
* `Run.skipped_iff_inapplicable_of_runs_phase`: the report of a run.
-/

namespace RestartCheck

open RestartCheck.Action Trace

/-! ## What the halves look up -/

/-- The cluster does not go back to an earlier version. -/
def RunConfig.IsUpgrade (config : RunConfig) : Prop :=
  config.oldVersion.Precedes config.upgradedVersion

theorem RunConfig.precedes_servingVersion
    {config : RunConfig}
    (hupgrade : config.IsUpgrade) :
    config.oldVersion.Precedes config.servingVersion := by
  unfold servingVersion
  cases config.isPreUpgrade with
  | true =>
      rintro version ⟨⟩
      exact Version.le_refl _
  | false => exact hupgrade

namespace Catalog

variable {settings : ScenarioSettings} {wanted : Bool} {scenario : Scenario} {version : Version}
  {capability : String}

/-- An applicable scenario finds what its halves look up at the old version. -/
theorem supports_needed
    (hmem : (wanted, scenario) ∈ all settings Capability.standard)
    (hbase : Capability.baseVersion ≤ version)
    (happlies : scenario.appliesTo version = .ok true)
    (hneeded : capability ∈ neededBy scenario.name) :
    Capability.standard.supports capability (some version) = .ok true := by
  simp only [all, List.mem_cons, List.not_mem_nil, or_false, Prod.mk.injEq] at hmem
  rcases hmem with ⟨_, rfl⟩ | ⟨_, rfl⟩ | ⟨_, rfl⟩ | ⟨_, rfl⟩ | ⟨_, rfl⟩
  · cases hneeded
  · cases hneeded
  · obtain rfl := List.mem_singleton.mp hneeded
    exact Capability.supports_watcherService hbase
  · have hjobs : Capability.standard.supports Capability.rollupJobs (some version) =
        .ok true := happlies
    rcases List.mem_cons.mp hneeded with rfl | hneeded
    · exact hjobs
    · obtain rfl := List.mem_singleton.mp hneeded
      exact Capability.supports_taskStateField hjobs
  · cases hneeded

end Catalog

/-! ## One visit -/

/-- The failure is a capability that is missed. -/
def Failure.IsUnsupported (failure : Failure) : Prop :=
  ∃ message capability version, failure = .unsupported message capability version

theorem Failure.IsOfService.not_isUnsupported
    {failure : Failure}
    (hservice : failure.IsOfService) :
    ¬failure.IsUnsupported := by
  rintro ⟨message, capability, version, rfl⟩
  exact hservice

namespace Coordinator

variable {settings : ScenarioSettings} {only : List String} {scenarios : List Scenario}
  {harness : Harness} {config : RunConfig} {visit : Visit}

/-- No request of the half is answered with a capability that is missed. -/
def Visit.IsAnswered (visit : Visit) : Prop :=
  ∀ invocation ∈ visit.invocation?, ∀ failure,
    CameIn failure invocation.events → ¬failure.IsUnsupported

/-- No half misses a capability. -/
theorem Visit.ne_unsupported
    (htable : harness.table = Capability.standard)
    (hbuild : Catalog.build settings Capability.standard only = .ok scenarios)
    (hscenario : visit.scenario ∈ scenarios)
    (hsound : visit.IsSound harness config)
    (hbase : Capability.baseVersion ≤ config.oldVersion)
    (hupgrade : config.IsUpgrade)
    (hanswered : visit.IsAnswered)
    {failure : Failure}
    (houtcome : visit.outcome = some (.error failure)) :
    ¬failure.IsUnsupported := by
  obtain ⟨wanted, hknown⟩ := Catalog.mem_all_of_mem_build hbuild hscenario
  obtain ⟨invocation, hinvocation, hended⟩ := Option.map_eq_some_iff.mp houtcome
  have happlies := hsound.appliesTo_of_invocation? hinvocation
  have hrun := runs_half_of_isSound hsound hinvocation
  rw [hended] at hrun
  rcases Catalog.raises_half hknown config.phase _ hrun with hfails | hcame
  · cases hfails with
    | service hservice => exact hservice.not_isUnsupported
    | resource ref _ hfailed =>
        obtain ⟨message, rfl⟩ := ScenarioContext.exists_continuity_of_resource hfailed
        rintro ⟨_, capability, version, hsame⟩
        cases hsame
    | health hfailed =>
        rw [htable] at hfailed
        exact absurd hfailed
          (CapabilityTable.resolve_ne_error_of_supports (Capability.supports_healthWait hbase))
    | capability capability hneeded hfailed =>
        have hold := Catalog.supports_needed hknown hbase happlies hneeded
        have hserving : Capability.standard.supports capability config.servingVersion = .ok true :=
          CapabilityTable.supports_mono hold (config.precedes_servingVersion hupgrade)
        rw [ScenarioContext.serving, htable] at hfailed
        exact absurd hfailed (CapabilityTable.resolve_ne_error_of_supports hserving)
  · exact hanswered invocation hinvocation failure hcame

/-- A scenario whose half misses no capability is skipped exactly when it is inapplicable. -/
theorem Visit.status_eq_skipped_iff
    {result : ScenarioResult}
    (hsound : visit.IsSound harness config)
    (hsupported : ∀ failure, visit.outcome = some (.error failure) → ¬failure.IsUnsupported)
    (hresult : visit.result config = .ok result) :
    result.status = .skipped ↔ visit.scenario.appliesTo config.oldVersion = .ok false := by
  rw [(Visit.eq_of_result hresult).2]
  obtain ⟨scenario, before, course⟩ := visit
  cases course with
  | unjudged failure => cases hresult
  | skipped => exact iff_of_true rfl hsound
  | invoked invocation =>
      refine iff_of_false ?_ (by rw [hsound.1]; simp)
      change statusOf scenario (some invocation.outcome) ≠ .skipped
      cases hended : invocation.outcome with
      | ok value => exact nofun
      | error failure =>
          have hfailure := hsupported failure (congrArg some hended)
          cases failure with
          | unsupported message capability version =>
              exact absurd ⟨message, capability, version, rfl⟩ hfailure
          | _ => exact nofun

end Coordinator

/-! ## The whole run -/

namespace Run

open RestartCheck.Coordinator

/-- The result says what became of the scenario: it was not run, or it was skipped exactly if it is
inapplicable. -/
def SkippedOnlyIfInapplicable
    (config : RunConfig)
    (scenario : Scenario)
    (result : ScenarioResult) : Prop :=
  result.name = scenario.name ∧
  (result.status ≠ .notRun →
    (result.status = .skipped ↔ scenario.appliesTo config.oldVersion = .ok false))

section Report

variable {account : Account} {harness : Harness} {config : RunConfig} {scenarios : List Scenario}
  {before after : Session}

theorem cameIn_eventsOf
    {visit : Visit} {invocation : Invocation} {failure : Failure}
    (hmem : visit ∈ account.visits)
    (hinvocation : visit.invocation? = some invocation)
    (hcame : CameIn failure invocation.events) :
    CameIn failure (eventsOf account config scenarios before after) := by
  refine hcame.of_subset fun exchange hexchange => ?_
  rw [exchanges_eventsOf]
  refine List.mem_flatMap.mpr ⟨visit, hmem, ?_⟩
  rw [Visit.exchanges, hinvocation]
  exact hexchange

/-- The results say what became of each scenario, whether it was reached or not. -/
theorem forall₂_results
    {report : RunReport}
    (hexplains : account.Explains harness config scenarios before after)
    (hsupported : ∀ visit ∈ account.visits, ∀ failure,
      visit.outcome = some (.error failure) → ¬failure.IsUnsupported)
    (hreport : account.ending config = .ok report) :
    List.Forall₂ (SkippedOnlyIfInapplicable config) scenarios report.results := by
  obtain ⟨told, hall, rfl⟩ := Account.ending_eq_ok_iff.mp hreport
  rw [hexplains.covers]
  refine List.rel_append ?_ ?_
  · rw [List.forall₂_map_left_iff]
    have hvisits := (List.forall₂_and_left _ _).mpr
      ⟨fun visit hmem => And.intro (hexplains.sound visit hmem) (hsupported visit hmem), hall⟩
    refine hvisits.imp fun visit result ⟨⟨hsound, hvisit⟩, hresult⟩ => ?_
    exact ⟨(Visit.eq_of_result hresult).1, fun _ =>
      Visit.status_eq_skipped_iff hsound hvisit hresult⟩
  · rw [List.forall₂_map_right_iff, List.forall₂_same]
    exact fun scenario _ => ⟨rfl, fun hreached => absurd rfl hreached⟩

end Report

/-- **Nothing is skipped midway.**  With the built-in table, from version 5.0.0 on, and unless the
cluster goes back to an earlier version, no half that a run invokes misses a capability, as long as
requests are answered or do not reach the service.  So the scenarios that the report lists as
skipped are the inapplicable ones among those that were reached.  A run without a report has not
done anything. -/
theorem skipped_iff_inapplicable_of_runs_phase
    (settings : Settings)
    (config : RunConfig)
    (only : List String)
    (patience : Nat)
    (before after : Session)
    (events : List Event)
    (result : Except Failure RunReport)
    (hbase : Capability.baseVersion ≤ config.oldVersion)
    (hupgrade : config.IsUpgrade)
    (hanswered : ∀ exchange ∈ exchanges events, ∀ failure,
      exchange.answer = .error failure → ∃ message, failure = .unreachable message)
    (hrun : (phase settings config Capability.standard only patience).Runs before events result
      after) :
    (events = [] ∧ ∃ failure, result = .error failure)
    ∨
    ∃ (harness : Harness) (scenarios : List Scenario) (account : Account) (report : RunReport),
      Harness.create Capability.standard config patience = .ok harness ∧
      Catalog.build settings.scenarios Capability.standard only = .ok scenarios ∧
      account.Explains harness config scenarios before after ∧
      account.ending config = .ok report ∧
      result = .ok report ∧
      (∀ visit ∈ account.visits, ∀ message capability version,
        visit.outcome ≠ some (.error (.unsupported message capability version))) ∧
      List.Forall₂ (SkippedOnlyIfInapplicable config) scenarios report.results := by
  refine (refused_or_exists_account_of_runs_phase hrun).imp_right ?_
  rintro ⟨hwritten, harness, scenarios, account, hharness, hbuild, hexplains, rfl, rfl⟩
  have hscenario : ∀ visit ∈ account.visits, visit.scenario ∈ scenarios := by
    intro visit hmem
    rw [hexplains.covers]
    exact List.mem_append_left _ (List.mem_map_of_mem hmem)
  have hsupported : ∀ visit ∈ account.visits, ∀ failure,
      visit.outcome = some (.error failure) → ¬failure.IsUnsupported := by
    intro visit hmem failure houtcome
    refine Visit.ne_unsupported (Harness.table_of_create hharness) hbuild (hscenario visit hmem)
      (hexplains.sound visit hmem) hbase hupgrade ?_ houtcome
    rintro invocation hinvocation known hcame ⟨message, capability, version, rfl⟩
    obtain ⟨exchange, hexchange, hanswer⟩ := cameIn_eventsOf hmem hinvocation hcame
    obtain ⟨_, hmessage⟩ := hanswered exchange hexchange _ hanswer
    cases hmessage
  cases hending : account.ending config with
  | ok report =>
      refine ⟨harness, scenarios, account, report, hharness, hbuild, hexplains, hending, rfl, ?_,
        forall₂_results hexplains hsupported hending⟩
      intro visit hmem message capability version houtcome
      exact hsupported visit hmem _ houtcome ⟨message, capability, version, rfl⟩
  | error failure =>
      -- Only what came in place of an answer could break the run off.
      obtain ⟨exchange, hexchange, known, hanswer, hknown⟩ :=
        exists_untold_answer hbuild hwritten hexplains hending
      obtain ⟨message, rfl⟩ := hanswered exchange (by rwa [exchanges_eventsOf]) known hanswer
      obtain ⟨_, _, hsame⟩ := hknown
      cases hsame

/-- A service that rejects the query on the index with two types, as it should. -/
def rejecting : Rehearsal where
  routes := [("POST /_xpack/sql", [{ answer := .ok ⟨400, IncompatibleIndex.expectedError⟩ }])]

theorem skipped_in_rejecting :
    ∃ events report after,
      (phase {} afterUpgrade Capability.standard ["incompatible_index", "background_job"] 1).Runs {}
        events (.ok report) after ∧
      report.results.map ScenarioResult.status = [.skipped, .passed] ∧
      ∃ scenarios,
        Catalog.build {} Capability.standard ["incompatible_index", "background_job"] =
          .ok scenarios ∧
        List.Forall₂ (SkippedOnlyIfInapplicable afterUpgrade) scenarios report.results := by
  obtain ⟨events, report, after, hrun, htest⟩ :=
    exists_runs_of_succeedsWith rejecting {}
      (phase {} afterUpgrade Capability.standard ["incompatible_index", "background_job"] 1)
      (fun events report =>
        ((exchanges events).all fun exchange => exchange.answer.isOk) &&
          report.results.map ScenarioResult.status == [.skipped, .passed]) rfl (by decide +kernel)
  rw [Bool.and_eq_true, List.all_eq_true, beq_iff_eq] at htest
  obtain ⟨hanswered, hstatuses⟩ := htest
  rcases skipped_iff_inapplicable_of_runs_phase {} afterUpgrade _ 1 {} after events (.ok report)
      (by decide) (by rintro _ ⟨⟩) (fun exchange hmem failure hfailed => by
        have hok := hanswered exchange hmem
        rw [hfailed] at hok
        cases hok) hrun with
    ⟨_, _, hfailed⟩ | ⟨_, scenarios, _, _, _, hbuild, _, _, hreport, _, hresults⟩
  · cases hfailed
  · cases hreport
    exact ⟨events, report, after, hrun, hstatuses, scenarios, hbuild, hresults⟩

end Run
end RestartCheck
