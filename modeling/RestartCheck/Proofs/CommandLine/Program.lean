import RestartCheck.CommandLine.Program
import RestartCheck.Proofs.CommandLine.Arguments
import RestartCheck.Proofs.Effect.Rehearsed
import RestartCheck.Proofs.Run.Inputs
import RestartCheck.Proofs.Run.Report
import RestartCheck.Proofs.Settings.Loading

/-!
# How the program ends

A run ends in a report, and the exit status of the program tells what the report says.  Settings and
inputs that are rejected end the program before the service is asked anything.

There are two exceptions.  The mark for the end of options can be attached to the choice of a
scenario in place of a name.  The arguments are accepted, but the run breaks off with a defect.  And
it breaks off when it cannot be told what came in place of an answer.

**Results.**
* `Reflects.of_ending`: the status tells what a report says.
* `exists_runs_of_runs_runConnected`: what is exchanged while the connection is open.
* `Ends.of_runs_runWith`, `crashed_of_not_tells`: what becomes of settings that are loaded.
* `ends_in_report_and_status`: a run of a phase, and a run of the program.
-/

namespace RestartCheck

open RestartCheck.Action Trace

namespace CommandLine

open RestartCheck.Coordinator RestartCheck.Settings

/-! ## The status of a report -/

section Status

variable {report : RunReport}

theorem statusOf_eq_aborted_iff :
    statusOf report = abortedStatus ↔ report.aborted = true := by
  unfold statusOf
  cases report.aborted with
  | true => simp
  | false => cases report.passed <;> decide

theorem statusOf_eq_failed_iff :
    statusOf report = failedStatus ↔
      report.aborted = false ∧ ∃ result ∈ report.results, result.status = .failed := by
  have hpassed : report.passed = true ↔ _ := RunReport.passed_iff
  unfold statusOf
  cases haborted : report.aborted with
  | true => simp [abortedStatus, failedStatus]
  | false =>
      rw [haborted] at hpassed
      cases hpass : report.passed with
      | true =>
          have hnone := (hpassed.mp hpass).2
          simpa [okStatus, failedStatus] using hnone
      | false =>
          have hsome := mt hpassed.mpr (by simp [hpass])
          simpa using hsome

end Status

/-- Some half has found the service out of reach. -/
def FindsOutage (account : Account) : Prop :=
  ∃ message, Except.error (.unreachable message) ∈ account.outcomes

/-- The exit tells what has become of the scenarios. -/
structure Reflects
    (account : Account)
    (report : RunReport)
    (exit : Exit) : Prop where
  aborted : exit = .status abortedStatus ↔ FindsOutage account
  failed : exit = .status failedStatus ↔
    ¬FindsOutage account ∧ ∃ result ∈ report.results, result.status = .failed
  passed : exit = .status okStatus ↔
    ¬FindsOutage account ∧ ∀ result ∈ report.results, result.status ≠ .failed

theorem Reflects.of_ending
    {account : Account} {config : RunConfig} {report : RunReport}
    (hreport : account.ending config = .ok report) :
    Reflects account report (.status (statusOf report)) := by
  have haborted : report.aborted = true ↔ FindsOutage account := by
    obtain ⟨told, _, rfl⟩ := Account.ending_eq_ok_iff.mp hreport
    exact account.isSome_abort?_iff
  have hgoing : report.aborted = false ↔ ¬FindsOutage account := by
    rw [← haborted, Bool.not_eq_true]
  refine ⟨?_, ?_, ?_⟩
  · rw [Exit.status.injEq, statusOf_eq_aborted_iff, haborted]
  · rw [Exit.status.injEq, statusOf_eq_failed_iff, hgoing]
  · rw [Exit.status.injEq, statusOf_eq_zero_iff, RunReport.passed_iff, hgoing]

/-! ## Rejections -/

/-- The settings or the inputs of the run are rejected. -/
def Rejects
    (arguments : Arguments)
    (loaded : Except LoadFailure Settings) : Prop :=
  (∃ failure, loaded = .error failure) ∨
    ∃ settings failure, loaded = .ok settings ∧ arguments.config settings = .error failure

/-- What is rejected is so for a reason that the program tells. -/
structure Tells
    (arguments : Arguments)
    (loaded : Except LoadFailure Settings) : Prop where
  settings : ∀ failure, loaded ≠ .error (.defect failure)
  inputs : ∀ settings failure,
    loaded = .ok settings → arguments.config settings = .error failure →
    ∃ message, failure = .configuration message

section Rejections

variable {arguments : Arguments} {patience : Nat} {events : List Event} {exit : Exit}
  {settings : Settings}

theorem silent_noteError
    (event : String)
    (fields : LogFields) :
    (noteError event fields).IsSilent :=
  Procedure.silent_query (by simp)

/-- The program tells what is wrong, and ends without asking the service anything. -/
theorem rejected_of_runs_noteError
    {logging : LoggingSettings} {event : String} {fields : LogFields}
    (hrun : Procedure.Runs (do
        Procedure.query (.setUpLogging logging)
        noteError event fields
        return Exit.status configurationStatus) events exit) :
    exchanges events = [] ∧ exit = .status configurationStatus := by
  obtain ⟨_, rest, rfl, hrest⟩ := Procedure.runs_query_bind_iff.mp hrun
  obtain ⟨noting, _, _, rfl, hnoted, hend⟩ := Procedure.runs_bind_iff.mp hrest
  obtain ⟨rfl, rfl⟩ := Procedure.runs_done_iff.mp hend
  refine ⟨?_, rfl⟩
  rw [List.append_nil]
  change exchanges noting = []
  exact silent_noteError _ _ hnoted

end Rejections

/-! ## The connection -/

section Connection

variable {settings : Settings} {config : RunConfig} {only : List Given} {patience : Nat}
  {events : List Event} {exit : Exit}

/-- How the program ends, given how the run of the phase does. -/
def exitOf : Except Failure RunReport → Exit
  | .ok report => .status (statusOf report)
  | .error failure => .crashed failure

theorem exitOf_ne_configurationStatus
    (result : Except Failure RunReport) :
    exitOf result ≠ .status configurationStatus := by
  cases result with
  | error failure => simp [exitOf]
  | ok report =>
      rw [exitOf, Ne, Exit.status.injEq, statusOf]
      split
      · decide
      split
      · decide
      · decide

/-- The memory with which the run of the phase begins. -/
def opened (settings : Settings) : Session :=
  { logging := some settings.logging }

/-- Opening and closing the connection exchanges nothing. -/
theorem exists_runs_of_runs_runConnected
    (hrun : (runConnected settings config only patience).Runs events exit) :
    ∃ inner result after,
      (runPhase settings config only patience).Runs (opened settings) inner result after ∧
      exchanges events = exchanges inner ∧
      exit = exitOf result := by
  obtain ⟨_, rest, rfl, hrest⟩ := Procedure.runs_query_bind_iff.mp hrun
  obtain ⟨inner, closing, ⟨result, after⟩, rfl, hinner, hclosing⟩ :=
    Procedure.runs_bind_iff.mp hrest
  obtain ⟨_, telling, rfl, htelling⟩ := Procedure.runs_query_bind_iff.mp hclosing
  have htold : exchanges telling = [] ∧ exit = exitOf result := by
    cases result with
    | error failure =>
        obtain ⟨rfl, rfl⟩ := Procedure.runs_done_iff.mp htelling
        exact ⟨rfl, rfl⟩
    | ok report =>
        obtain ⟨noting, _, _, rfl, hnoted, hend⟩ := Procedure.runs_bind_iff.mp htelling
        obtain ⟨rfl, rfl⟩ := Procedure.runs_done_iff.mp hend
        have hsilent : (noteAbort report).IsSilent := by
          unfold noteAbort
          split
          · exact silent_noteError _ _
          · exact Procedure.silent_pure ()
        exact ⟨by rw [List.append_nil]; exact hsilent hnoted, rfl⟩
  refine ⟨inner, result, after, hinner, ?_, htold.2⟩
  change exchanges (inner ++ _ :: telling) = _
  rw [exchanges_append]
  change exchanges inner ++ exchanges telling = _
  rw [htold.1, List.append_nil]

end Connection

/-! ## The choice of scenarios -/

section Choice

theorem mapM_text?_map
    (names : List String) :
    (names.map Given.text).mapM Given.text? = some names := by
  induction names with
  | nil => rfl
  | cons name rest ih =>
      rw [List.map_cons, List.mapM_cons, ih]
      rfl

variable {only : List Given}

theorem mapM_text?_eq_none
    (hnothing : .nothing ∈ only) :
    only.mapM Given.text? = none := by
  induction only with
  | nil => cases hnothing
  | cons given rest ih =>
      rw [List.mapM_cons]
      cases given with
      | nothing => rfl
      | text name =>
          rw [ih (by simpa using hnothing)]
          rfl

/-- Scenarios that are not chosen by nothing are chosen by name. -/
theorem exists_names
    (hnothing : .nothing ∉ only) :
    ∃ names : List String, only = names.map .text := by
  induction only with
  | nil => exact ⟨[], rfl⟩
  | cons given rest ih =>
      rw [List.mem_cons, not_or] at hnothing
      obtain ⟨names, rfl⟩ := ih hnothing.2
      cases given with
      | nothing => exact absurd rfl hnothing.1
      | text name => exact ⟨name :: names, rfl⟩

end Choice

/-! ## The whole program -/

/-- What the program does with the settings that it has loaded. -/
def runLoaded
    (arguments : Arguments)
    (patience : Nat) : Except LoadFailure Settings → Procedure Exit
  | .ok settings => runWith settings arguments patience
  | .error (.defect failure) => return .crashed failure
  | .error failure => do
      Procedure.query (.setUpLogging {})
      noteError "settings_error" [("error", .json (.string failure.message))]
      return .status configurationStatus

theorem runArguments_eq_bind
    (surroundings : Surroundings)
    (arguments : Arguments)
    (patience : Nat) :
    runArguments surroundings arguments patience =
      (surroundings.loadOnce none).bind (runLoaded arguments patience) :=
  rfl

/-- It cannot be told what came in place of one of the answers. -/
def MeetsUntold (all : List Exchange) : Prop :=
  ∃ exchange ∈ all, ∃ failure, exchange.answer = .error failure ∧ failure.IsUntold

/-- The run has made its visits, with all that is exchanged, and the exit tells what has become of
the scenarios that are chosen by the names.  A visit that has no result ends the program with a
defect. -/
structure Concludes
    (settings : Settings)
    (config : RunConfig)
    (names : List String)
    (patience : Nat)
    (account : Account)
    (all : List Exchange)
    (exit : Exit) : Prop where
  explains : ∃ (harness : Harness) (scenarios : List Scenario) (after : Session),
    Harness.create Capability.standard config patience = .ok harness ∧
    Catalog.build settings.scenarios Capability.standard names = .ok scenarios ∧
    account.Explains harness config scenarios (opened settings) after
  exchanges : all = account.visits.flatMap Visit.exchanges
  reported : ∀ report, account.ending config = .ok report →
    report.results.map ScenarioResult.name = Catalog.chosen settings.scenarios names ∧
    Reflects account report exit
  broken : ∀ failure, account.ending config = .error failure →
    exit = .crashed failure ∧ MeetsUntold all

/-- How the program ends, given the settings that it has loaded. -/
structure Ends
    (arguments : Arguments)
    (loaded : Except LoadFailure Settings)
    (patience : Nat)
    (all : List Exchange)
    (exit : Exit) : Prop where
  rejected : exit = .status configurationStatus ↔ Rejects arguments loaded
  /-- Nothing is asked of the service before the settings and the inputs are accepted. -/
  silent : Rejects arguments loaded → all = []
  accepted : ¬Rejects arguments loaded →
    ∃ settings config,
      loaded = .ok settings ∧
      arguments.config settings = .ok config ∧
      (.nothing ∈ arguments.scenarios → exit = .crashed (.defect .wrongType)) ∧
      (.nothing ∉ arguments.scenarios →
        ∃ (names : List String) (account : Account),
          arguments.scenarios = names.map .text ∧
          Concludes settings config names patience account all exit)

section Whole

variable {arguments : Arguments} {settings : Settings} {config : RunConfig} {patience : Nat}
  {events : List Event} {exit : Exit}

/-- The versions that the program has read can be told. -/
theorem told_of_config
    (hconfig : arguments.config settings = .ok config) :
    ¬config.HidesAssistance ∧ ¬config.oldVersion.IsUnwritten := by
  unfold Arguments.config at hconfig
  split at hconfig
  · cases hconfig
  · refine ⟨?_, (RunConfig.written_of_ofSettings hconfig).1⟩
    rintro ⟨version, hversion, hunwritten, _⟩
    exact RunConfig.written_servingVersion hconfig hversion hunwritten

theorem concludes_of_runs_runConnected
    {names : List String}
    (hknown : ∀ name ∈ names, name ∈ Catalog.names)
    (hconfig : arguments.config settings = .ok config)
    (hrun : (runConnected settings config (names.map .text) patience).Runs events exit) :
    ∃ account, Concludes settings config names patience account (exchanges events) exit := by
  obtain ⟨hassists, hwritten⟩ := told_of_config hconfig
  obtain ⟨inner, result, after, hphase, hexchanges, rfl⟩ := exists_runs_of_runs_runConnected hrun
  rw [runPhase, mapM_text?_map] at hphase
  obtain ⟨harness, scenarios, account, hharness, hbuild, hexplains, rfl, rfl⟩ :=
    Run.exists_account_of_standard hknown hassists hwritten hphase
  have hall : exchanges events = account.visits.flatMap Visit.exchanges := by
    rw [hexchanges, Run.exchanges_eventsOf]
  refine ⟨account, ⟨harness, scenarios, after, hharness, hbuild, hexplains⟩, hall,
    fun report hreport => ?_, fun failure hfailed => ?_⟩
  · rw [hreport]
    exact ⟨Run.Account.names_report hexplains hbuild hreport, .of_ending hreport⟩
  · rw [hfailed, hall]
    exact ⟨rfl, Run.exists_untold_answer hbuild hwritten hexplains hfailed⟩

/-- A scenario that is chosen by nothing breaks the run off. -/
theorem crashed_of_runs_runConnected
    {only : List Given}
    (hnothing : .nothing ∈ only)
    (hrun : (runConnected settings config only patience).Runs events exit) :
    exit = .crashed (.defect .wrongType) := by
  obtain ⟨inner, result, after, hphase, _, rfl⟩ := exists_runs_of_runs_runConnected hrun
  rw [runPhase, mapM_text?_eq_none hnothing] at hphase
  obtain ⟨_, rfl, _⟩ := runs_fail_iff.mp hphase
  rfl

/-- There is such a run: the connection is opened and closed again. -/
theorem runs_runConnected_of_nothing
    {only : List Given}
    (settings : Settings)
    (config : RunConfig)
    (patience : Nat)
    (hnothing : .nothing ∈ only) :
    (runConnected settings config only patience).Runs
      [⟨.connect settings.client, ()⟩, ⟨.disconnect, ()⟩] (.crashed (.defect .wrongType)) := by
  have hphase : (runPhase settings config only patience).Runs (opened settings) []
      (.error (.defect .wrongType)) (opened settings) := by
    rw [runPhase, mapM_text?_eq_none hnothing]
    exact runs_fail_iff.mpr ⟨rfl, rfl, rfl⟩
  refine Procedure.runs_query_bind_iff.mpr ⟨(), [⟨.disconnect, ()⟩], rfl, ?_⟩
  refine Procedure.runs_bind_iff.mpr ⟨[], [⟨.disconnect, ()⟩], _, rfl, hphase, ?_⟩
  exact Procedure.runs_query_bind_iff.mpr ⟨(), [], rfl, .done _⟩

theorem Ends.of_rejected
    {loaded : Except LoadFailure Settings} {all : List Exchange}
    (hrejects : Rejects arguments loaded)
    (hend : all = [] ∧ exit = .status configurationStatus) :
    Ends arguments loaded patience all exit :=
  ⟨iff_of_true hend.2 hrejects, fun _ => hend.1, fun haccepts => absurd hrejects haccepts⟩

/-- Settings and inputs that are accepted lead to a run of the phase. -/
theorem Ends.of_runs_runConnected
    (hknown : arguments.IsKnown)
    (hconfig : arguments.config settings = .ok config)
    (hrun : (runConnected settings config arguments.scenarios patience).Runs events exit) :
    Ends arguments (.ok settings) patience (exchanges events) exit := by
  have haccepts : ¬Rejects arguments (.ok settings) := by
    rintro (⟨failure, hfailed⟩ | ⟨known, failure, hloaded, hfailed⟩)
    · cases hfailed
    · cases hloaded
      cases hconfig.symm.trans hfailed
  refine ⟨iff_of_false ?_ haccepts, fun hrejects => absurd hrejects haccepts, fun _ =>
    ⟨settings, config, rfl, hconfig, fun hnothing => crashed_of_runs_runConnected hnothing hrun,
      fun hnothing => ?_⟩⟩
  · obtain ⟨_, result, _, _, _, rfl⟩ := exists_runs_of_runs_runConnected hrun
    exact exitOf_ne_configurationStatus result
  · obtain ⟨names, hnames⟩ := exists_names hnothing
    have hbuiltIn : ∀ name ∈ names, name ∈ Catalog.names := by
      intro name hmem
      refine hknown name ?_
      rw [hnames]
      exact List.mem_map_of_mem hmem
    rw [hnames] at hrun
    obtain ⟨account, hconcludes⟩ := concludes_of_runs_runConnected hbuiltIn hconfig hrun
    exact ⟨names, account, hnames, hconcludes⟩

theorem runs_runWith_of_config
    (hconfig : arguments.config settings = .ok config)
    (hrun : (runConnected settings config arguments.scenarios patience).Runs events exit) :
    (runWith settings arguments patience).Runs (⟨.setUpLogging settings.logging, ()⟩ :: events)
      exit := by
  refine Procedure.runs_query_bind_iff.mpr ⟨(), events, rfl, ?_⟩
  rw [hconfig]
  exact hrun

theorem Ends.of_runs_runWith
    (htells : Tells arguments (.ok settings))
    (hknown : arguments.IsKnown)
    (hrun : (runWith settings arguments patience).Runs events exit) :
    Ends arguments (.ok settings) patience (exchanges events) exit := by
  cases hconfig : arguments.config settings with
  | error failure =>
      obtain ⟨message, rfl⟩ := htells.inputs settings failure rfl hconfig
      unfold runWith at hrun
      rw [hconfig] at hrun
      exact .of_rejected (Or.inr ⟨settings, _, rfl, hconfig⟩) (rejected_of_runs_noteError hrun)
  | ok config =>
      obtain ⟨_, rest, rfl, hrest⟩ := Procedure.runs_query_bind_iff.mp hrun
      rw [hconfig] at hrest
      change Ends arguments (.ok settings) patience (exchanges rest) exit
      exact .of_runs_runConnected hknown hconfig hrest

/-- What the program does not tell of ends it. -/
theorem crashed_of_not_tells
    {loaded : Except LoadFailure Settings}
    (huntold : ¬Tells arguments loaded)
    (hrun : (runLoaded arguments patience loaded).Runs events exit) :
    ∃ failure, exit = .crashed failure := by
  cases loaded with
  | error failure =>
      cases failure with
      | defect failure =>
          obtain ⟨_, rfl⟩ := Procedure.runs_done_iff.mp hrun
          exact ⟨failure, rfl⟩
      | _ => exact absurd ⟨by simp, by simp⟩ huntold
  | ok settings =>
      obtain ⟨_, rest, _, hrest⟩ := Procedure.runs_query_bind_iff.mp hrun
      cases hconfig : arguments.config settings with
      | ok config =>
          refine absurd ⟨by simp, ?_⟩ huntold
          rintro known failure ⟨⟩ hfailed
          cases hconfig.symm.trans hfailed
      | error failure =>
          rw [hconfig] at hrest
          cases failure with
          | configuration message =>
              refine absurd ⟨by simp, ?_⟩ huntold
              rintro known failure ⟨⟩ hfailed
              cases hconfig.symm.trans hfailed
              exact ⟨message, rfl⟩
          | _ =>
              obtain ⟨_, rfl⟩ := Procedure.runs_done_iff.mp hrest
              exact ⟨_, rfl⟩

/-- The program goes on from loading its settings. -/
theorem exists_ends_of_runs_runArguments
    {surroundings : Surroundings}
    (hknown : arguments.IsKnown)
    (hrun : (runArguments surroundings arguments patience).Runs events exit) :
    ∃ loading rest loaded,
      events = loading ++ rest ∧
      (surroundings.loadOnce none).Runs loading loaded ∧
      (Tells arguments loaded → Ends arguments loaded patience (exchanges events) exit) ∧
      (¬Tells arguments loaded → ∃ failure, exit = .crashed failure) := by
  rw [runArguments_eq_bind] at hrun
  obtain ⟨loading, rest, loaded, rfl, hloaded, hrest⟩ := Procedure.runs_bind_iff.mp hrun
  refine ⟨loading, rest, loaded, rfl, hloaded, fun htells => ?_, fun huntold =>
    crashed_of_not_tells huntold hrest⟩
  rw [exchanges_append, surroundings.silent_loadOnce none hloaded, List.nil_append]
  cases loaded with
  | ok settings => exact .of_runs_runWith htells hknown hrest
  | error failure =>
      refine .of_rejected (Or.inl ⟨failure, rfl⟩) ?_
      cases failure with
      | defect failure => exact absurd rfl (htells.settings failure)
      | _ => exact rejected_of_runs_noteError hrest

theorem runs_program_of_parse
    {surroundings : Surroundings} {texts : List String} {loading rest : List Event}
    {loaded : Except LoadFailure Settings}
    (hparse : parse texts = .ok arguments)
    (hloaded : (surroundings.loadOnce none).Runs loading loaded)
    (hrest : (runLoaded arguments patience loaded).Runs rest exit) :
    (program surroundings texts patience).Runs (loading ++ rest) exit := by
  rw [program, hparse]
  exact Procedure.runs_bind_iff.mpr ⟨loading, rest, loaded, rfl, hloaded, hrest⟩

end Whole

/-- **A run ends in a report and a matching exit status.**  A run of a phase with the built-in table
and a selection of built-in scenarios does nothing when its versions cannot be told.  Otherwise it
ends in a report, with one result for each scenario that is enabled and selected, in declared order,
unless some visit has no result; and then it cannot be told what came in place of an answer.

For accepted arguments the program ends with the status for rejected settings or inputs exactly when
these are rejected, and then it asks the service nothing.  Otherwise its status tells whether some
half has found the service out of reach, or else whether some scenario has failed.  Only a scenario
that is chosen by nothing breaks the run off, or a visit that has no result. -/
theorem ends_in_report_and_status
    (patience : Nat)
    (events : List Event) :
    (∀ (settings : Settings) (config : RunConfig) (only : List String)
        (before after : Session) (result : Except Failure RunReport),
      (∀ name ∈ only, name ∈ Catalog.names) →
      (Run.phase settings config Capability.standard only patience).Runs before events result
        after →
      ((config.HidesAssistance ∨ config.oldVersion.IsUnwritten) ∧
        events = [] ∧ result = .error .unwritten)
      ∨
      ∃ (harness : Harness) (scenarios : List Scenario) (account : Account),
        Harness.create Capability.standard config patience = .ok harness ∧
        Catalog.build settings.scenarios Capability.standard only = .ok scenarios ∧
        account.Explains harness config scenarios before after ∧
        result = account.ending config ∧
        (∀ report, result = .ok report →
          report.results.map ScenarioResult.name = Catalog.chosen settings.scenarios only) ∧
        ((∃ failure, result = .error failure) ↔ ∃ visit ∈ account.visits, visit.IsUntold) ∧
        ((∃ failure, result = .error failure) → MeetsUntold (exchanges events))) ∧
    ∀ (surroundings : Surroundings) (texts : List String) (arguments : Arguments) (exit : Exit),
      parse texts = .ok arguments →
      (program surroundings texts patience).Runs events exit →
      ∃ loading rest loaded,
        events = loading ++ rest ∧
        (surroundings.loadOnce none).Runs loading loaded ∧
        (Tells arguments loaded → Ends arguments loaded patience (exchanges events) exit) ∧
        (¬Tells arguments loaded → ∃ failure, exit = .crashed failure) := by
  constructor
  · intro settings config only before after result honly hrun
    by_cases huntold : config.HidesAssistance ∨ config.oldVersion.IsUnwritten
    · obtain ⟨hnone, hfailed, _⟩ := Run.eq_unwritten_of_standard honly huntold hrun
      exact Or.inl ⟨huntold, hnone, hfailed⟩
    · obtain ⟨hassists, hwritten⟩ := not_or.mp huntold
      obtain ⟨harness, scenarios, account, hharness, hbuild, hexplains, rfl, rfl⟩ :=
        Run.exists_account_of_standard honly hassists hwritten hrun
      refine Or.inr ⟨harness, scenarios, account, hharness, hbuild, hexplains, rfl,
        fun _ => Run.Account.names_report hexplains hbuild,
        account.exists_ending_eq_error_iff config, ?_⟩
      rintro ⟨failure, hfailed⟩
      rw [Run.exchanges_eventsOf]
      exact Run.exists_untold_answer hbuild hwritten hexplains hfailed
  · intro surroundings texts arguments exit hparse hrun
    rw [program, hparse] at hrun
    exact exists_ends_of_runs_runArguments (isKnown_of_parse hparse) hrun

/-! ## Two runs of the program -/

/-- A working directory at the root, and nothing in the environment. -/
def bareSurroundings : Surroundings :=
  ⟨[], ⟨true, [], false⟩⟩

/-- A run before the upgrade, of one scenario. -/
def oneScenario : List String :=
  ["--phase=pre_upgrade", "--old-version=6.3.2", "--scenario=single_record"]

def oneScenarioArguments : Arguments where
  phase := some (.text "pre_upgrade")
  oldVersion := some (.text "6.3.2")
  scenarios := [.text "single_record"]

/-- A base file that says nothing, and a service that is out of reach. -/
def deserted : Rehearsal :=
  { Run.refusing with files := ⟨[(["config", "default.toml"], "")], []⟩ }

/-- A run of the phase, and a run of the program. -/
theorem ends_aborted_in_deserted :
    (∃ events report after,
      (Run.phase {} Run.afterUpgrade Capability.standard [SingleRecord.name] 1).Runs {} events
        (.ok report) after ∧
      report.results.map ScenarioResult.name = [SingleRecord.name]) ∧
    ∃ events settings config names account,
      (program bareSurroundings oneScenario 1).Runs events (.status abortedStatus) ∧
      Concludes settings config names 1 account (exchanges events) (.status abortedStatus) := by
  constructor
  · obtain ⟨events, report, after, hrun, _⟩ :=
      exists_runs_of_succeedsWith deserted {}
        (Run.phase {} Run.afterUpgrade Capability.standard [SingleRecord.name] 1)
        (fun _ _ => true) rfl (by decide +kernel)
    rcases (ends_in_report_and_status 1 events).1 {} Run.afterUpgrade [SingleRecord.name] {} after
        (.ok report) (by decide) hrun with
      ⟨_, _, hfailed⟩ | ⟨_, _, _, _, _, _, _, hnames, _⟩
    · cases hfailed
    · exact ⟨events, report, after, hrun, hnames report rfl⟩
  obtain ⟨events, exit, hrun, htest⟩ :=
    exists_runs_of_any_play deserted (program bareSurroundings oneScenario 1)
      (fun | .status code => code == abortedStatus | _ => false) (by decide +kernel)
  have hexit : exit = .status abortedStatus := by
    split at htest
    · rw [beq_iff_eq.mp htest]
    · cases htest
  subst hexit
  obtain ⟨loading, rest, loaded, _, _, hends, hcrashes⟩ :=
    (ends_in_report_and_status 1 events).2 bareSurroundings oneScenario oneScenarioArguments _
      (by decide +kernel) hrun
  have htells : Tells oneScenarioArguments loaded := by
    by_contra huntold
    obtain ⟨failure, hcrashed⟩ := hcrashes huntold
    cases hcrashed
  have haccepted : ¬Rejects oneScenarioArguments loaded := by
    intro hrejects
    have hstatus := (hends htells).rejected.mpr hrejects
    simp [abortedStatus, configurationStatus] at hstatus
  obtain ⟨settings, config, _, _, _, hnamed⟩ := (hends htells).accepted haccepted
  obtain ⟨names, account, _, hconcludes⟩ := hnamed (by decide)
  exact ⟨events, settings, config, names, account, hrun, hconcludes⟩

/-- A run before the upgrade, with the mark for the end of options in place of a scenario. -/
def unnamedScenario : List String :=
  ["--phase=pre_upgrade", "--old-version=6.3.2", "--scenario=--"]

def unnamedScenarioArguments : Arguments where
  phase := some (.text "pre_upgrade")
  oldVersion := some (.text "6.3.2")
  scenarios := [.nothing]

/-- A base file that enables no scenario. -/
def disabled : Rehearsal where
  files :=
    ⟨[(["config", "default.toml"],
      "[scenarios]\nsingle_record_enabled=false\nincompatible_index_enabled=false\n" ++
      "security_store.enabled=false\nwatcher.enabled=false\njob_persistence.enabled=false\n")], []⟩

/-- The arguments and the settings are accepted, and with no scenario enabled there is nothing that
could fail, but the program crashes. -/
theorem crashes_in_disabled :
    ∃ loading rest settings config,
      parse unnamedScenario = .ok unnamedScenarioArguments ∧
      (bareSurroundings.loadOnce none).Runs loading (.ok settings) ∧
      unnamedScenarioArguments.config settings = .ok config ∧
      (∀ only, Catalog.chosen settings.scenarios only = []) ∧
      (program bareSurroundings unnamedScenario 1).Runs (loading ++ rest)
        (.crashed (.defect .wrongType)) := by
  have hparse : parse unnamedScenario = .ok unnamedScenarioArguments := by decide +kernel
  obtain ⟨loading, loaded, hloading, htest⟩ :=
    exists_runs_of_any_play disabled (bareSurroundings.loadOnce none)
      (fun
        | .ok settings => (unnamedScenarioArguments.config settings).isOk &&
            (Catalog.enabledBy settings.scenarios).all fun entry => !entry.2
        | .error _ => false) (by decide +kernel)
  cases loaded with
  | error failure => cases htest
  | ok settings =>
      obtain ⟨haccepted, hdisabled⟩ := Bool.and_eq_true_iff.mp htest
      have hnone : ∀ only, Catalog.chosen settings.scenarios only = [] := by
        intro only
        rw [Catalog.chosen, List.map_eq_nil_iff, List.filter_eq_nil_iff]
        intro entry hmem
        have hoff : entry.2 = false := by simpa using List.all_eq_true.mp hdisabled entry hmem
        simp [hoff]
      cases hconfig : unnamedScenarioArguments.config settings with
      | error failure =>
          rw [hconfig] at haccepted
          cases haccepted
      | ok config =>
          have hnothing : .nothing ∈ unnamedScenarioArguments.scenarios := by decide
          have hrest := runs_runWith_of_config hconfig
            (runs_runConnected_of_nothing settings config 1 hnothing)
          exact ⟨loading, _, settings, config, hparse, hloading, hconfig, hnone,
            runs_program_of_parse hparse hloading hrest⟩

end CommandLine
end RestartCheck
