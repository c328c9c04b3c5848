import RestartCheck.Proofs.Run.Report
import RestartCheck.Proofs.SecurityStore.Protocol

/-!
# What a run after the upgrade writes

A run after the upgrade sends what the second halves of its scenarios send, and nothing else.  So
none of its requests writes to a resource that a run before the upgrade has created, whatever the
service answers and however the halves end.

**Results.**
* `Visit.spares_of_isSound`: one visit.
* `Run.spares_of_runs_phase`: the whole run.
-/

namespace RestartCheck

open RestartCheck.Action Trace

namespace Coordinator

variable {settings : ScenarioSettings} {table : CapabilityTable} {harness : Harness}
  {config : RunConfig} {visit : Visit}

/-- A visit spares what the first halves have created. -/
structure Visit.Spares
    (visit : Visit)
    (settings : ScenarioSettings)
    (table : CapabilityTable)
    (harness : Harness)
    (config : RunConfig) : Prop where
  /-- What is no read is one of the writes of the scenario, given the exchanges before. -/
  permitted : ∀ front exchange back,
    visit.exchanges = front ++ exchange :: back →
    ¬exchange.request.IsRead →
    Catalog.Writes harness config front visit.scenario.name exchange.request
  /-- What is put is put where no first half creates anything. -/
  fresh : ∀ exchange ∈ visit.exchanges,
    exchange.request.method = "PUT" →
    ∃ path ref,
      exchange.request.path = path ++ "/" ++ ref.name ∧ Catalog.IsFresh settings table ref
  /-- Two of the scenarios only read. -/
  reads : visit.scenario.name ∈ [SingleRecord.name, BackgroundJob.name] →
    ∀ exchange ∈ visit.exchanges, exchange.request.IsRead

theorem Visit.spares_of_isSound
    {wanted : Bool}
    (hphase : config.phase = .postUpgrade)
    (hmem : (wanted, visit.scenario) ∈ Catalog.all settings table)
    (hsound : visit.IsSound harness config) :
    visit.Spares settings table harness config := by
  have hcovers :
      (Catalog.permission harness config visit.scenario.name).Covers [] visit.exchanges := by
    unfold Visit.exchanges
    cases hinvocation : visit.invocation? with
    | none => trivial
    | some invocation =>
        have hrun := runs_half_of_isSound hsound hinvocation
        rw [hphase] at hrun
        exact Catalog.permits_postUpgrade hmem _ hrun
  have hpermitted : ∀ front exchange back,
      visit.exchanges = front ++ exchange :: back →
      ¬exchange.request.IsRead →
      Catalog.Writes harness config front visit.scenario.name exchange.request := by
    intro front exchange back hsplit hwrites
    rw [hsplit] at hcovers
    exact hcovers.allows.resolve_left hwrites
  refine ⟨hpermitted, fun exchange hexchange hput => ?_, fun hname exchange hexchange => ?_⟩
  · obtain ⟨front, back, hsplit⟩ := List.append_of_mem hexchange
    have hwrites : ¬exchange.request.IsRead := by
      rw [Request.IsRead, hput]
      decide
    exact (hpermitted front exchange back hsplit hwrites).fresh hput
  · obtain ⟨front, back, hsplit⟩ := List.append_of_mem hexchange
    by_contra hwrites
    have hreaders : ∀ name ∈ [SingleRecord.name, BackgroundJob.name],
        name ∉ [SecurityStore.name, Watcher.name, IncompatibleIndex.name] := by
      decide
    exact hreaders _ hname (hpermitted front exchange back hsplit hwrites).name_mem

end Coordinator

namespace Run

open RestartCheck.Coordinator

/-- **Nothing old is written.**  A run after the upgrade exchanges nothing with the service, or else
what its visits do.  Whatever the service answers, a visit reads, migrates a store that an earlier
answer has reported as required, writes the new user and role, starts and stops the watcher, stores
the new watch, or queries the index with two types; none of what it puts is declared by any
scenario.  The scenarios of the single record and of the background job only read. -/
theorem spares_of_runs_phase
    (settings : Settings)
    (config : RunConfig)
    (table : CapabilityTable)
    (only : List String)
    (patience : Nat)
    (before after : Session)
    (events : List Event)
    (result : Except Failure RunReport)
    (hphase : config.phase = .postUpgrade)
    (hrun : (phase settings config table only patience).Runs before events result after) :
    exchanges events = []
    ∨
    ∃ (harness : Harness) (scenarios : List Scenario) (account : Account),
      Harness.create table config patience = .ok harness ∧
      Catalog.build settings.scenarios table only = .ok scenarios ∧
      account.Explains harness config scenarios before after ∧
      exchanges events = account.visits.flatMap Visit.exchanges ∧
      ∀ visit ∈ account.visits, visit.Spares settings.scenarios table harness config := by
  rcases refused_or_exists_account_of_runs_phase hrun with
    ⟨rfl, _⟩ | ⟨_, harness, scenarios, account, hharness, hbuild, hexplains, rfl, _⟩
  · exact Or.inl exchanges_nil
  · refine Or.inr ⟨harness, scenarios, account, hharness, hbuild, hexplains,
      exchanges_eventsOf account config scenarios before after, fun visit hmem => ?_⟩
    have hscenario : visit.scenario ∈ scenarios := by
      rw [hexplains.covers]
      exact List.mem_append_left _ (List.mem_map_of_mem hmem)
    obtain ⟨wanted, hknown⟩ := Catalog.mem_all_of_mem_build hbuild hscenario
    exact Visit.spares_of_isSound hphase hknown (hexplains.sound visit hmem)

/-- The run migrates the store of a service whose store is outdated. -/
theorem migrates_in_outdated :
    ∃ events report after harness, ∃ visit : Visit, ∃ front exchange back,
      (phase {} afterUpgrade Capability.standard ["security_store"] 2).Runs {} events (.ok report)
        after ∧
      visit.exchanges = front ++ exchange :: back ∧
      exchange ∈ exchanges events ∧
      exchange.request.method = "POST" ∧
      Catalog.Writes harness afterUpgrade front visit.scenario.name exchange.request := by
  obtain ⟨events, report, after, hrun, htest⟩ :=
    exists_runs_of_succeedsWith SecurityStore.outdated {}
      (phase {} afterUpgrade Capability.standard ["security_store"] 2)
      (fun events _ => (exchanges events).any fun exchange => exchange.request.method == "POST") rfl
      (by decide +kernel)
  obtain ⟨exchange, hmem, hmethod⟩ := List.any_eq_true.mp htest
  have hpost : exchange.request.method = "POST" := beq_iff_eq.mp hmethod
  have hwrites : ¬exchange.request.IsRead := by
    rw [Request.IsRead, hpost]
    decide
  rcases spares_of_runs_phase {} afterUpgrade Capability.standard _ 2 {} after events _ rfl hrun
    with hnone | ⟨harness, _, account, _, _, _, hexchanges, hspares⟩
  · rw [hnone] at hmem
    cases hmem
  · have hvisits : exchange ∈ account.visits.flatMap Visit.exchanges := hexchanges ▸ hmem
    obtain ⟨visit, hvisit, hexchange⟩ := List.mem_flatMap.mp hvisits
    obtain ⟨front, back, hsplit⟩ := List.append_of_mem hexchange
    exact ⟨events, report, after, harness, visit, front, exchange, back, hrun, hsplit, hmem, hpost,
      (hspares visit hvisit).permitted front exchange back hsplit hwrites⟩

end Run
end RestartCheck
