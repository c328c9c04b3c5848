import RestartCheck.Proofs.Capability.Lookup
import RestartCheck.Proofs.Run.Outage
import RestartCheck.Proofs.Scenario.Writes

/-!
# A run ends in a report

Nothing that a run does before its visits can fail, as long as the versions are written and the
selection names built-in scenarios only: the built-in table describes its endpoints by texts, and no
two built-in scenarios share a name.  So a run ends in a report, with one result for every scenario
that is enabled and selected, unless something came in place of an answer that cannot be told.

**Results.**
* `Catalog.names_of_build`: which scenarios are built.
* `Harness.create_standard`: the harness of the built-in table.
* `Visit.exists_untold_answer`: which visits to built-in scenarios break a run off.
* `Run.exchanges_eventsOf`: a run exchanges what its halves do.
* `Run.exists_account_of_standard`, `Run.eq_unwritten_of_standard`: how a run ends.
-/

namespace RestartCheck

open RestartCheck.Action Trace

/-! ## Selection -/

namespace Catalog

variable {settings : ScenarioSettings} {table : CapabilityTable} {only : List String}
  {scenarios : List Scenario}

/-- The built-in scenarios by name, in order, and whether they are enabled. -/
def enabledBy (settings : ScenarioSettings) : OrderedMap String Bool :=
  [(SingleRecord.name, settings.singleRecord),
   (SecurityStore.name, settings.securityStore.enabled),
   (Watcher.name, settings.watcher.enabled),
   (BackgroundJob.name, settings.job.enabled),
   (IncompatibleIndex.name, settings.incompatibleIndex)]

/-- The names of the scenarios that are enabled and selected, in order.  An empty selection stands
for all scenarios. -/
def chosen
    (settings : ScenarioSettings)
    (only : List String) : List String :=
  ((enabledBy settings).filter fun entry =>
    entry.2 && (only.isEmpty || only.contains entry.1)).map Prod.fst

theorem select_eq_filter
    (only : List String)
    (scenarios : List Scenario) :
    select only scenarios =
      scenarios.filter fun scenario => only.isEmpty || only.contains scenario.name := by
  unfold select
  cases only with
  | nil => simp
  | cons name rest => simp

theorem enabled_eq_map_filter
    (settings : ScenarioSettings)
    (table : CapabilityTable) :
    enabled settings table = ((all settings table).filter Prod.fst).map Prod.snd := by
  unfold enabled
  generalize all settings table = entries
  induction entries with
  | nil => rfl
  | cons entry rest ih =>
      obtain ⟨wanted, scenario⟩ := entry
      cases wanted with
      | true => simpa using ih
      | false => simpa using ih

/-- The scenarios that are built are the chosen ones. -/
theorem names_of_build
    (hbuild : build settings table only = .ok scenarios) :
    (scenarios.map fun scenario => scenario.name) = chosen settings only := by
  have hscenarios : select only (enabled settings table) = scenarios := by
    unfold build at hbuild
    simp only at hbuild
    split at hbuild
    · exact Except.ok.inj hbuild
    · cases hbuild
  have hall : enabledBy settings =
      (all settings table).map fun entry => (entry.2.name, entry.1) :=
    rfl
  rw [← hscenarios, select_eq_filter, enabled_eq_map_filter, chosen, hall]
  simp only [List.filter_map, List.map_map, List.filter_filter]
  congr 1
  refine List.filter_congr fun entry _ => ?_
  exact Bool.and_comm _ _

theorem nodup_chosen
    (settings : ScenarioSettings)
    (only : List String) :
    (chosen settings only).Nodup := by
  have hnames : (OrderedMap.keys (enabledBy settings)).Nodup :=
    (by decide : names.Nodup)
  exact hnames.sublist (List.filter_sublist.map Prod.fst)

/-- A selection of built-in scenarios is accepted. -/
theorem exists_build
    (settings : ScenarioSettings)
    (table : CapabilityTable)
    (honly : ∀ name ∈ only, name ∈ names) :
    ∃ scenarios, build settings table only = .ok scenarios := by
  have hknown : (only.filter fun name => !names.contains name) = [] := by
    refine List.filter_eq_nil_iff.mpr fun name hmem => ?_
    simpa using honly name hmem
  refine ⟨select only (enabled settings table), ?_⟩
  unfold build
  rw [hknown]
  rfl

end Catalog

/-! ## The harness -/

/-- Whether the service assists migration cannot be told: the version that answers requests is not
written, and is below the first one that does. -/
def RunConfig.HidesAssistance (config : RunConfig) : Prop :=
  ∃ version,
    config.servingVersion = some version ∧
    version.IsUnwritten ∧
    version < Capability.assistanceGate

/-- With the built-in table there is a harness, unless it cannot be told whether the service assists
migration. -/
theorem Harness.create_standard
    (config : RunConfig)
    (patience : Nat) :
    (config.HidesAssistance ∧
      Harness.create Capability.standard config patience = .error .unwritten)
    ∨
    (¬config.HidesAssistance ∧
      ∃ harness, Harness.create Capability.standard config patience = .ok harness) := by
  unfold create
  cases hsupports : Capability.standard.supports Capability.migrationAssistance
      config.servingVersion with
  | error failure =>
      obtain ⟨_, ⟨version, hversion, hunwritten⟩, rfl⟩ :=
        CapabilityTable.supports_eq_error_iff.mp hsupports
      refine Or.inl ⟨⟨version, hversion, hunwritten, Version.lt_iff_not_le.mpr fun hle => ?_⟩, rfl⟩
      have hsupported : Capability.standard.supports Capability.migrationAssistance
          config.servingVersion = .ok true := by
        refine CapabilityTable.supports_iff.mpr ⟨_, List.mem_cons_self, fun known hknown => ?_⟩
        cases hversion.symm.trans hknown
        exact hle
      cases hsupports.symm.trans hsupported
  | ok supported =>
      cases supported with
      | false =>
          obtain ⟨_, hwritten⟩ := CapabilityTable.supports_eq_false_iff.mp hsupports
          refine Or.inr ⟨?_, _, rfl⟩
          rintro ⟨version, hversion, hunwritten, _⟩
          exact hwritten version hversion hunwritten
      | true =>
          refine Or.inr ⟨?_, ?_⟩
          · rintro ⟨version, hversion, _, hbelow⟩
            obtain ⟨row, hmem, hrow⟩ := CapabilityTable.supports_iff.mp hsupports
            obtain rfl := List.mem_singleton.mp hmem
            exact Version.lt_iff_not_le.mp hbelow (hrow version hversion)
          · cases hresolve : Capability.standard.resolve Capability.migrationAssistance
                config.servingVersion with
            | error failure =>
                exact absurd hresolve (CapabilityTable.resolve_ne_error_of_supports hsupports)
            | ok paths =>
                obtain rfl := CapabilityTable.descriptor_of_resolve_single rfl hresolve
                exact ⟨_, rfl⟩

/-! ## Requests -/

namespace Coordinator

/-- The exchanges with the service while the half of a scenario runs. -/
def Visit.exchanges (visit : Visit) : List Exchange :=
  match visit.invocation? with
  | none => []
  | some invocation => Trace.exchanges invocation.events

/-- A run exchanges nothing with the service but what the halves do. -/
theorem Visit.exchanges_events
    (visit : Visit)
    (config : RunConfig) :
    Trace.exchanges (visit.events config) = visit.exchanges := by
  have hconcluded : ∀ (session : Session) (outcome : Except Failure Unit),
      Trace.exchanges [concludingNote session visit.scenario outcome] = [] := by
    intro session outcome
    unfold concludingNote
    split <;> rfl
  obtain ⟨scenario, before, course⟩ := visit
  cases course with
  | unjudged failure => rfl
  | skipped => rfl
  | invoked invocation =>
      rw [events, exchanges_noted_cons, exchanges_append, hconcluded, List.append_nil]
      rfl

end Coordinator

/-! ## Failures that cannot be told -/

/-- It can be told that a capability is missing, and that a version is not written. -/
theorem Failure.TellsMissing.not_isUntold
    {failure : Failure} {capability : String} {version : Option Version}
    (htells : failure.TellsMissing capability version) :
    ¬failure.IsUntold := by
  rintro ⟨name, cause, rfl⟩
  cases htells

/-- A half by itself fails in ways that can be told. -/
theorem HalfFails.not_isUntold
    {ctx : ScenarioContext} {declared : List ResourceRef} {needed : List String}
    {failure : Failure}
    (hfails : HalfFails ctx declared needed failure) :
    ¬failure.IsUntold := by
  cases hfails with
  | service hservice =>
      rintro ⟨name, cause, rfl⟩
      exact hservice
  | resource ref _ hfailed =>
      obtain ⟨message, rfl⟩ := ScenarioContext.exists_continuity_of_resource hfailed
      rintro ⟨name, cause, hsame⟩
      cases hsame
  | health hfailed => exact (CapabilityTable.tellsMissing_of_resolve hfailed).not_isUntold
  | capability capability _ hfailed =>
      exact (CapabilityTable.tellsMissing_of_resolve hfailed).not_isUntold

/-- A built-in scenario judges every version that is written. -/
theorem Catalog.appliesTo_ne_error
    {settings : ScenarioSettings} {wanted : Bool} {scenario : Scenario} {table : CapabilityTable}
    {version : Version} {failure : Failure}
    (hmem : (wanted, scenario) ∈ all settings table)
    (hwritten : ¬version.IsUnwritten) :
    scenario.appliesTo version ≠ .error failure := by
  have hjudged : ∀ capability known, table.supports capability (some version) ≠ .error known := by
    intro capability known hfailed
    obtain ⟨_, ⟨_, ⟨⟩, hunwritten⟩, _⟩ := CapabilityTable.supports_eq_error_iff.mp hfailed
    exact hwritten hunwritten
  simp only [all, List.mem_cons, List.not_mem_nil, or_false, Prod.mk.injEq] at hmem
  rcases hmem with ⟨_, rfl⟩ | ⟨_, rfl⟩ | ⟨_, rfl⟩ | ⟨_, rfl⟩ | ⟨_, rfl⟩
  · intro hfailed
    cases hfailed
  · intro hfailed
    cases hfailed
  · intro hfailed
    cases hfailed
  · exact hjudged _ _
  · intro hfailed
    change (table.supports _ (some version)).map (!·) = _ at hfailed
    cases hsupports : table.supports Capability.singleType (some version) with
    | ok supported => simp [hsupports, Except.map] at hfailed
    | error known => exact hjudged _ known hsupports

/-- A visit to a built-in scenario breaks the run off only with a failure that came in place of an
answer. -/
theorem Coordinator.Visit.exists_untold_answer
    {settings : ScenarioSettings} {table : CapabilityTable} {only : List String}
    {scenarios : List Scenario} {harness : Harness} {config : RunConfig} {visit : Visit}
    (hbuild : Catalog.build settings table only = .ok scenarios)
    (hscenario : visit.scenario ∈ scenarios)
    (hwritten : ¬config.oldVersion.IsUnwritten)
    (hsound : visit.IsSound harness config)
    (huntold : visit.IsUntold) :
    ∃ exchange ∈ visit.exchanges, ∃ failure,
      exchange.answer = .error failure ∧ failure.IsUntold := by
  obtain ⟨wanted, hknown⟩ := Catalog.mem_all_of_mem_build hbuild hscenario
  obtain ⟨scenario, before, course⟩ := visit
  cases course with
  | unjudged failure => exact absurd hsound (Catalog.appliesTo_ne_error hknown hwritten)
  | skipped => exact huntold.elim
  | invoked invocation =>
      obtain ⟨failure, houtcome, hfailure⟩ := huntold
      have hrun := runsHalf_iff.mp hsound.2
      rw [houtcome] at hrun
      rcases Catalog.raises_half hknown config.phase _ hrun with hfails | hcame
      · exact absurd hfailure hfails.not_isUntold
      · obtain ⟨exchange, hmem, hanswer⟩ := hcame
        exact ⟨exchange, hmem, failure, hanswer, hfailure⟩

/-! ## The whole run -/

namespace Run

open RestartCheck.Coordinator

theorem exchanges_eventsOf
    (account : Account)
    (config : RunConfig)
    (scenarios : List Scenario)
    (before after : Session) :
    exchanges (eventsOf account config scenarios before after) =
      account.visits.flatMap Visit.exchanges := by
  have hvisits : ∀ visits : List Visit,
      exchanges (visits.flatMap (Visit.events · config)) = visits.flatMap Visit.exchanges := by
    intro visits
    induction visits with
    | nil => rfl
    | cons visit rest ih =>
        rw [List.flatMap_cons, exchanges_append, Visit.exchanges_events, ih, List.flatMap_cons]
  have htold : ∀ results : List ScenarioResult,
      exchanges (results.map (resultNote after)) = [] := by
    intro results
    induction results with
    | nil => rfl
    | cons result rest ih => exact ih
  have hclosing : exchanges (account.closing config after ++ resultNotes account config after) =
      [] := by
    unfold Account.closing resultNotes
    cases account.ending config with
    | ok report => exact htold report.results
    | error failure => rfl
  change exchanges (account.visits.flatMap (Visit.events · config) ++ _) = _
  rw [exchanges_append, hvisits, hclosing, List.append_nil]

variable {settings : Settings} {config : RunConfig} {table : CapabilityTable}
  {only : List String} {patience : Nat} {before after : Session} {events : List Event}
  {result : Except Failure RunReport}

theorem runs_scenarios_of_build
    {harness : Harness} {scenarios : List Scenario}
    (hharness : Harness.create table config patience = .ok harness)
    (hbuild : Catalog.build settings.scenarios table only = .ok scenarios)
    (hrun : (phase settings config table only patience).Runs before events result after) :
    Action.Runs (do
        let report ← Coordinator.run harness config scenarios
        each report.results noteResult
        return report) before events result after := by
  rcases runs_liftM_bind_iff.mp hrun with ⟨known, hknown, hbuilt⟩ | ⟨_, hfailed, _⟩
  · obtain rfl := Except.ok.inj (hharness.symm.trans hknown)
    rcases runs_liftM_bind_iff.mp hbuilt with ⟨others, hothers, hvisits⟩ | ⟨_, hfailed, _⟩
    · obtain rfl := Except.ok.inj (hbuild.symm.trans hothers)
      exact hvisits
    · cases hbuild.symm.trans hfailed
  · cases hharness.symm.trans hfailed

theorem nodup_of_build
    {scenarios : List Scenario}
    (hbuild : Catalog.build settings.scenarios table only = .ok scenarios) :
    (scenarios.map fun scenario => scenario.name).Nodup := by
  rw [Catalog.names_of_build hbuild]
  exact Catalog.nodup_chosen _ _

theorem exists_account_of_build
    {harness : Harness} {scenarios : List Scenario}
    (hharness : Harness.create table config patience = .ok harness)
    (hbuild : Catalog.build settings.scenarios table only = .ok scenarios)
    (hwritten : ¬config.oldVersion.IsUnwritten)
    (hrun : (phase settings config table only patience).Runs before events result after) :
    ∃ account : Account,
      account.Explains harness config scenarios before after ∧
      events = eventsOf account config scenarios before after ∧
      result = account.ending config :=
  exists_account_of_nodup hwritten (nodup_of_build hbuild)
    (runs_scenarios_of_build hharness hbuild hrun)

/-- With the built-in table and a selection of built-in scenarios a run makes its visits, unless the
version that answers requests or the old version cannot be told. -/
theorem exists_account_of_standard
    (honly : ∀ name ∈ only, name ∈ Catalog.names)
    (hassists : ¬config.HidesAssistance)
    (hwritten : ¬config.oldVersion.IsUnwritten)
    (hrun : (phase settings config Capability.standard only patience).Runs before events result
      after) :
    ∃ (harness : Harness) (scenarios : List Scenario) (account : Account),
      Harness.create Capability.standard config patience = .ok harness ∧
      Catalog.build settings.scenarios Capability.standard only = .ok scenarios ∧
      account.Explains harness config scenarios before after ∧
      events = eventsOf account config scenarios before after ∧
      result = account.ending config := by
  obtain ⟨harness, hharness⟩ :=
    ((Harness.create_standard config patience).resolve_left fun h => hassists h.1).2
  obtain ⟨scenarios, hbuild⟩ := Catalog.exists_build settings.scenarios Capability.standard honly
  obtain ⟨account, haccount⟩ := exists_account_of_build hharness hbuild hwritten hrun
  exact ⟨harness, scenarios, account, hharness, hbuild, haccount⟩

/-- Without them being told nothing is done. -/
theorem eq_unwritten_of_standard
    (honly : ∀ name ∈ only, name ∈ Catalog.names)
    (huntold : config.HidesAssistance ∨ config.oldVersion.IsUnwritten)
    (hrun : (phase settings config Capability.standard only patience).Runs before events result
      after) :
    events = [] ∧ result = .error .unwritten ∧ after = before := by
  obtain ⟨scenarios, hbuild⟩ := Catalog.exists_build settings.scenarios Capability.standard honly
  rcases Harness.create_standard config patience with
    ⟨_, hfailed⟩ | ⟨hassists, harness, hharness⟩
  · rcases runs_liftM_bind_iff.mp hrun with ⟨known, hknown, _⟩ | ⟨failure, hfailure, hend⟩
    · cases hfailed.symm.trans hknown
    · cases hfailed.symm.trans hfailure
      exact hend
  · exact eq_of_isUnwritten (huntold.resolve_left hassists) (nodup_of_build hbuild)
      (runs_scenarios_of_build hharness hbuild hrun)

/-- A run that is broken off met something in place of an answer that cannot be told. -/
theorem exists_untold_answer
    {account : Account} {harness : Harness} {scenarios : List Scenario} {failure : Failure}
    (hbuild : Catalog.build settings.scenarios table only = .ok scenarios)
    (hwritten : ¬config.oldVersion.IsUnwritten)
    (hexplains : account.Explains harness config scenarios before after)
    (hfailed : account.ending config = .error failure) :
    ∃ exchange ∈ account.visits.flatMap Visit.exchanges, ∃ known,
      exchange.answer = .error known ∧ known.IsUntold := by
  obtain ⟨visit, hmem, huntold⟩ :=
    (account.exists_ending_eq_error_iff config).mp ⟨failure, hfailed⟩
  have hscenario : visit.scenario ∈ scenarios := by
    rw [hexplains.covers]
    exact List.mem_append_left _ (List.mem_map_of_mem hmem)
  obtain ⟨exchange, hexchange, hanswer⟩ := Visit.exists_untold_answer hbuild hscenario hwritten
    (hexplains.sound visit hmem) huntold
  exact ⟨exchange, List.mem_flatMap.mpr ⟨visit, hmem, hexchange⟩, hanswer⟩

/-- A report has one result for each scenario that is enabled and selected. -/
theorem Account.names_report
    {account : Account} {harness : Harness} {scenarios : List Scenario} {report : RunReport}
    (hexplains : account.Explains harness config scenarios before after)
    (hbuild : Catalog.build settings.scenarios table only = .ok scenarios)
    (hreport : account.ending config = .ok report) :
    report.results.map ScenarioResult.name = Catalog.chosen settings.scenarios only := by
  rw [← Catalog.names_of_build hbuild]
  exact hexplains.names_results hreport

end Run
end RestartCheck
