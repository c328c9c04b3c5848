import RestartCheck.Proofs.Run.Outage
import RestartCheck.Proofs.Scenario.Writes
import RestartCheck.Proofs.SecurityStore.Protocol

/-!
# Which scenario a log entry belongs to

While a half runs, the name of its scenario and the phase are bound as context for log entries.  So
the log of a run falls into segments, one for every half that is invoked, from the entry that tells
its start to the one that classifies how it ended, and entries outside any segment.

**Algorithm.**  The log is parsed entry by entry and segment by segment, next to the list of the
halves that the segments belong to.  A visit contributes one entry outside any segment or one whole
segment, and leaves the context that it found; the rest is an induction on the visits.

**Results.**
* `Attributed`: the segments of a log, in order.
* `Attributed.append`: logs that follow on one another.
* `IsUnder.lookup_merged`: what an entry of a segment shows.
* `log_attributed`: the log of a run.
-/

namespace RestartCheck

/-- A bound value shows unless a field hides it. -/
theorem LogEntry.lookup_merged_of_bound
    {entry : LogEntry} {name : String}
    (hfields : OrderedMap.lookup entry.fields name = none) :
    OrderedMap.lookup entry.merged name = OrderedMap.lookup entry.context name := by
  unfold merged
  rw [OrderedMap.lookup_append_right hfields]
  refine OrderedMap.lookup_filter fun bound _ hname => ?_
  rw [hname, hfields]
  rfl

namespace Coordinator

open RestartCheck.Action Trace

/-! ## Segments of a log -/

/-- The entry was written while the half of the scenario ran. -/
structure IsUnder
    (config : RunConfig)
    (scenario : Scenario)
    (entry : LogEntry) : Prop where
  scenario :
    OrderedMap.lookup entry.context "scenario" = some (.json (.string scenario.name))
  phase :
    OrderedMap.lookup entry.context "phase" = some (.json (.string config.phase.text))

/-- No scenario was bound when the entry was written. -/
def IsOutside (entry : LogEntry) : Prop :=
  OrderedMap.lookup entry.context "scenario" = none

/-- An entry of a segment shows the scenario and the phase, unless it has fields of its own with
these names. -/
theorem IsUnder.lookup_merged
    {config : RunConfig} {scenario : Scenario} {entry : LogEntry}
    (hunder : IsUnder config scenario entry) :
    (OrderedMap.lookup entry.fields "scenario" = none →
      OrderedMap.lookup entry.merged "scenario" = some (.json (.string scenario.name))) ∧
    (OrderedMap.lookup entry.fields "phase" = none →
      OrderedMap.lookup entry.merged "phase" = some (.json (.string config.phase.text))) :=
  ⟨fun hfields => (LogEntry.lookup_merged_of_bound hfields).trans hunder.scenario,
    fun hfields => (LogEntry.lookup_merged_of_bound hfields).trans hunder.phase⟩

/-- The event that classifies how a half ended. -/
def classification : Except Failure Unit → String
  | .ok () => "scenario_passed"
  | .error (.unsupported _ _ _) => "scenario_unsupported"
  | .error (.unreachable _) => "scenario_aborted_unreachable"
  | .error (.defect _) => "scenario_crashed"
  | .error _ => "scenario_failed"

/-- A half that was invoked, and how it ended. -/
abbrev Ending := Scenario × Except Failure Unit

/-- The log falls into the segments of the halves, in their order, and entries outside of them. -/
inductive Attributed (config : RunConfig) : List Ending → List LogEntry → Prop
  | nil : Attributed config [] []
  | outside {endings : List Ending} {entry : LogEntry} {log : List LogEntry}
      (houtside : IsOutside entry)
      (hlog : Attributed config endings log) :
      Attributed config endings (entry :: log)
  | segment {scenario : Scenario} {outcome : Except Failure Unit} {endings : List Ending}
      {first last : LogEntry} {inner log : List LogEntry}
      (hstarted : first.event = .string "scenario_started")
      (hclassified : last.event = .string (classification outcome))
      (hunder : ∀ entry ∈ first :: (inner ++ [last]), IsUnder config scenario entry)
      (hlog : Attributed config endings log) :
      Attributed config ((scenario, outcome) :: endings) (first :: (inner ++ [last]) ++ log)

theorem Attributed.append
    {config : RunConfig} {endings more : List Ending} {log others : List LogEntry}
    (hlog : Attributed config endings log)
    (hothers : Attributed config more others) :
    Attributed config (endings ++ more) (log ++ others) := by
  induction hlog with
  | nil => exact hothers
  | outside houtside _ ih => exact .outside houtside ih
  | segment hstarted hclassified hunder _ ih =>
      rw [List.append_assoc]
      exact .segment hstarted hclassified hunder ih

/-! ## One visit -/

/-- The entry about how a half ended is written in the context of the memory at its end. -/
theorem exists_logged_concludingNote
    (session : Session)
    (scenario : Scenario)
    (outcome : Except Failure Unit) :
    ∃ entry,
      logged [concludingNote session scenario outcome] = [entry] ∧
      entry.event = .string (classification outcome) ∧
      entry.context = session.context := by
  cases outcome with
  | ok value => exact ⟨_, rfl, rfl, rfl⟩
  | error failure => cases failure <;> exact ⟨_, rfl, rfl, rfl⟩

/-- Whatever is written in the context of a scenario is written under it. -/
theorem isUnder_of_context
    {config : RunConfig} {scenario : Scenario} {entry : LogEntry}
    (session : Session)
    (hcontext : entry.context = (bindContext session (contextOf config scenario)).context) :
    IsUnder config scenario entry := by
  have hbound : entry.context =
      OrderedMap.put
        (OrderedMap.put session.context "scenario" (.json (.string scenario.name)))
        "phase" (.json (.string config.phase.text)) := hcontext
  refine ⟨?_, ?_⟩
  · rw [hbound, OrderedMap.lookup_put_of_ne _ _ (by decide), OrderedMap.lookup_put_self]
  · rw [hbound, OrderedMap.lookup_put_self]

namespace Visit

/-- The half that a visit invokes, and how it ended. -/
def ending? (visit : Visit) : Option Ending :=
  visit.invocation?.map fun invocation => (visit.scenario, invocation.outcome)

/-- A visit leaves the context that it found. -/
theorem context_after
    (visit : Visit) :
    visit.after.context = visit.before.context := by
  unfold Visit.after
  cases visit.course with
  | unjudged failure => rfl
  | skipped => rfl
  | invoked invocation => rfl

/-- What a visit logs is one segment, or outside any segment. -/
theorem attributed
    {visit : Visit} {harness : Harness} {config : RunConfig}
    (hsound : visit.IsSound harness config)
    (hkeeps : KeepsContext
      (visit.scenario.half config.phase ⟨config, harness, visit.scenario.toDeclaration⟩))
    (hbefore : OrderedMap.lookup visit.before.context "scenario" = none) :
    Attributed config visit.ending?.toList (logged (visit.events config)) := by
  obtain ⟨scenario, before, course⟩ := visit
  cases course with
  | unjudged failure => exact .nil
  | skipped => exact .outside hbefore .nil
  | invoked invocation =>
      obtain ⟨hafter, hentries⟩ := hkeeps (runsHalf_iff.mp hsound.2)
      obtain ⟨last, hlast, hclassified, hcontext⟩ :=
        exists_logged_concludingNote invocation.after scenario invocation.outcome
      rw [events, logged_noted_cons, logged_append, hlast]
      have hsegment : Attributed config [(scenario, invocation.outcome)]
          (⟨.info, .string "scenario_started", [],
              (bindContext before (contextOf config scenario)).context⟩ ::
            (logged invocation.events ++ [last]) ++ []) := by
        refine .segment rfl hclassified (fun entry hmem => ?_) .nil
        refine isUnder_of_context before ?_
        rcases List.mem_cons.mp hmem with rfl | hmem
        · rfl
        rcases List.mem_append.mp hmem with hinner | hend
        · exact hentries entry hinner
        · rw [List.mem_singleton.mp hend, hcontext]
          exact hafter
      rwa [List.append_nil] at hsegment

end Visit

/-! ## The whole run -/

/-- The halves that are invoked, and how they end. -/
def Account.endings (account : Account) : List Ending :=
  account.visits.filterMap Visit.ending?

/-- Linked visits leave the context that the first of them found. -/
theorem Linked.context_eq
    {before after : Session} {visits : List Visit}
    (hlinked : Linked before visits after) :
    after.context = before.context := by
  induction visits generalizing before with
  | nil => rw [hlinked]
  | cons visit rest ih =>
      obtain ⟨rfl, hrest⟩ := hlinked
      rw [ih hrest, visit.context_after]

/-- What linked visits log, by induction on the visits. -/
theorem Linked.attributed
    {harness : Harness} {config : RunConfig} {before after : Session} {visits : List Visit}
    (hlinked : Linked before visits after)
    (hsound : ∀ visit ∈ visits, visit.IsSound harness config)
    (hkeeps : ∀ visit ∈ visits, KeepsContext
      (visit.scenario.half config.phase ⟨config, harness, visit.scenario.toDeclaration⟩))
    (hbefore : OrderedMap.lookup before.context "scenario" = none) :
    Attributed config (visits.filterMap Visit.ending?)
      (logged (visits.flatMap (Visit.events · config))) := by
  induction visits generalizing before with
  | nil => exact .nil
  | cons visit rest ih =>
      obtain ⟨rfl, hrest⟩ := hlinked
      obtain ⟨hsoundFirst, hsoundRest⟩ := List.forall_mem_cons.mp hsound
      obtain ⟨hkeepsFirst, hkeepsRest⟩ := List.forall_mem_cons.mp hkeeps
      have hbehind : OrderedMap.lookup visit.after.context "scenario" = none :=
        visit.context_after ▸ hbefore
      have happend := (Visit.attributed hsoundFirst hkeepsFirst hbefore).append
        (ih hrest hsoundRest hkeepsRest hbehind)
      rw [List.flatMap_cons, logged_append]
      cases hending : visit.ending? with
      | none =>
          rw [hending] at happend
          rwa [List.filterMap_cons_none hending]
      | some ending =>
          rw [hending] at happend
          rwa [List.filterMap_cons_some hending]

/-- The halves of the segments are those that are invoked, and they end as the invocations do. -/
theorem Account.endings_eq
    (account : Account) :
    account.endings.map Prod.fst = account.invoked ∧
      account.endings.map Prod.snd = account.outcomes := by
  obtain ⟨visits, unreached⟩ := account
  unfold endings invoked outcomes
  induction visits with
  | nil => exact ⟨rfl, rfl⟩
  | cons visit rest ih =>
      obtain ⟨hinvoked, houtcomes⟩ := ih
      simp only at hinvoked houtcomes ⊢
      cases hinvocation : visit.invocation? with
      | none =>
          simp [Visit.ending?, Visit.outcome, hinvocation, hinvoked, houtcomes]
      | some invocation =>
          simp [Visit.ending?, Visit.outcome, hinvocation, hinvoked, houtcomes]

/-- **The log of a run.**  A run over scenarios with distinct names, none of which binds context by
itself, logs one segment for every half that it invokes, in declared order.  A segment goes from the
start of the half to the entry that classifies how it ended, and all of its entries carry the
scenario and the phase.  No other entry carries a scenario, and in the end the context is what it
was.  This is so whether the run ends in a report or is broken off; at an old version that is not
written nothing is logged. -/
theorem log_attributed
    {harness : Harness} {config : RunConfig} {scenarios : List Scenario}
    {before after : Session} {events : List Event} {result : Except Failure RunReport}
    (hnodup : (scenarios.map fun scenario => scenario.name).Nodup)
    (hkeeps : ∀ scenario ∈ scenarios,
      KeepsContext (scenario.half config.phase ⟨config, harness, scenario.toDeclaration⟩))
    (hbefore : OrderedMap.lookup before.context "scenario" = none)
    (hrun : (run harness config scenarios).Runs before events result after) :
    (config.oldVersion.IsUnwritten ∧ events = [] ∧ after = before)
    ∨
    ∃ account : Account,
      account.Explains harness config scenarios before after ∧
      result = account.ending config ∧
      account.endings.map Prod.fst =
        account.reached.filter (fun scenario => scenario.isApplicable config.oldVersion) ∧
      (account.endings.map Prod.fst).Sublist scenarios ∧
      account.endings.map Prod.snd = account.outcomes ∧
      Attributed config account.endings (logged events) ∧
      after.context = before.context := by
  by_cases hunwritten : config.oldVersion.IsUnwritten
  · obtain ⟨hnone, _, hafter⟩ := (runs_run_of_isUnwritten hunwritten hnodup).mp hrun
    exact Or.inl ⟨hunwritten, hnone, hafter⟩
  refine Or.inr ?_
  obtain ⟨account, hexplains, rfl, rfl⟩ := (runs_run_of_nodup hunwritten hnodup).mp hrun
  obtain ⟨hinvoked, houtcomes⟩ := account.endings_eq
  have hafter : after.context = before.context := hexplains.linked.context_eq
  have hreached : account.reached.Sublist scenarios := by
    rw [hexplains.covers]
    exact List.sublist_append_left _ _
  refine ⟨account, hexplains, rfl, hinvoked.trans hexplains.invoked_eq, ?_, houtcomes, ?_, hafter⟩
  · rw [hinvoked, hexplains.invoked_eq]
    exact List.filter_sublist.trans hreached
  · have hvisits := hexplains.linked.attributed hexplains.sound
      (fun visit hmem => hkeeps _ (hreached.subset (List.mem_map_of_mem hmem))) hbefore
    have hclosing : Attributed config [] (logged (account.closing config after)) := by
      unfold Account.closing
      cases account.ending config with
      | ok report => exact .outside (by rw [IsOutside, hafter]; exact hbefore) .nil
      | error failure => exact .nil
    have hwhole := hvisits.append hclosing
    rw [List.append_nil, ← logged_append] at hwhole
    exact .outside hbefore hwhole

/-- A service that keeps the record, knows no other request, and is out of reach in the end. -/
def waning : Rehearsal where
  routes :=
    [("PUT /testsingledoc/doc/1", [{ answer := .ok ⟨201, ""⟩ }]),
     ("GET /testsingledoc/doc/1", [{ answer := .ok ⟨200, SingleRecord.record⟩ }]),
     ("POST /testsqlfailsonindexwithtwotypes/type1", [{ answer := .error (.unreachable "gone") }])]

theorem log_attributed_in_waning :
    ∃ scenarios events report after account,
      Catalog.build {} Capability.standard [] = .ok scenarios ∧
      (run SecurityStore.standardContext.harness Run.beforeUpgrade scenarios).Runs {} events
        (.ok report) after ∧
      report.results.map ScenarioResult.status = [.passed, .failed, .failed, .skipped, .failed] ∧
      Account.ending account Run.beforeUpgrade = .ok report ∧
      (account.endings.map Prod.fst).Sublist scenarios ∧
      Attributed Run.beforeUpgrade account.endings (logged events) ∧
      after.context = [] := by
  have hbuild : Catalog.build {} Capability.standard [] =
      .ok (Catalog.enabled {} Capability.standard) := rfl
  obtain ⟨events, report, after, hrun, htest⟩ :=
    exists_runs_of_succeedsWith waning {}
      (run SecurityStore.standardContext.harness Run.beforeUpgrade
        (Catalog.enabled {} Capability.standard))
      (fun _ report => report.results.map ScenarioResult.status ==
        [.passed, .failed, .failed, .skipped, .failed]) rfl (by decide +kernel)
  rcases log_attributed (by decide) (fun scenario hmem =>
      Catalog.keepsContext_half (Catalog.mem_all_of_mem_build hbuild hmem).choose_spec _ _) rfl
      hrun with
    ⟨hunwritten, _⟩ | ⟨account, _, hreport, _, hsublist, _, hlog, hcontext⟩
  · exact absurd hunwritten (by decide +kernel)
  · exact ⟨_, events, report, after, account, hbuild, hrun, beq_iff_eq.mp htest, hreport.symm,
      hsublist, hlog, hcontext⟩

end Coordinator
end RestartCheck
