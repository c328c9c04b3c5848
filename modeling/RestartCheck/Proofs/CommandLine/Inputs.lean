import RestartCheck.Proofs.CommandLine.Program
import RestartCheck.Proofs.Run.Inputs

/-!
# How the program deals with its inputs

Inputs that are missing or malformed end the program with the status for a rejected configuration,
before the service is asked anything.

There is one exception.  A version with a run of digits that is too long to be read ends the program
with a defect.  The service is asked nothing then either.

**Results.**
* `rejectsUnless_config`: the inputs that are given by arguments and settings.
* `Checks.of_runs_runWith`, `exists_runs_runWith`: what becomes of settings that are loaded.
* `rejects_inputs_unless_overlong`: versions, inputs and runs of the program.
-/

namespace RestartCheck

open RestartCheck.Action Trace

namespace CommandLine

open RestartCheck.Settings

/-- The run reads a version that is too long.  A phase given as nothing is rejected before. -/
def Arguments.ReadsOverlong
    (arguments : Arguments)
    (settings : Settings) : Prop :=
  arguments.phase ≠ some .nothing ∧
    RunConfig.ReadsOverlong settings (arguments.phase.bind Given.text?)
      (arguments.oldVersion.bind Given.text?)

/-- The exit tells what has become of the inputs, and the service is asked nothing unless they are
accepted. -/
structure Checks
    (arguments : Arguments)
    (settings : Settings)
    (all : List Exchange)
    (exit : Exit) : Prop where
  rejected : exit = .status configurationStatus ↔
    ∃ message, arguments.config settings = .error (.configuration message)
  broken : arguments.ReadsOverlong settings →
    ∃ message, exit = .crashed (.defect (.badValue message))
  silent : (∀ config, arguments.config settings ≠ .ok config) → all = []

/-- The program rejects all inputs that it does not accept, unless it reads a version that is too
long. -/
structure ChecksInputs
    (surroundings : Surroundings)
    (texts : List String)
    (arguments : Arguments)
    (patience : Nat) : Prop where
  decides : ∀ settings,
    RejectsUnless (arguments.ReadsOverlong settings) (arguments.config settings)
  ends : ∀ events exit,
    (program surroundings texts patience).Runs events exit →
    ∃ loading rest loaded,
      events = loading ++ rest ∧
      (surroundings.loadOnce none).Runs loading loaded ∧
      ∀ settings, loaded = .ok settings → Checks arguments settings (exchanges events) exit
  exists_run : ∀ loading settings,
    (surroundings.loadOnce none).Runs loading (.ok settings) →
    (∀ config, arguments.config settings ≠ .ok config) →
    ∃ rest exit,
      (program surroundings texts patience).Runs (loading ++ rest) exit ∧
      Checks arguments settings (exchanges (loading ++ rest)) exit

section Settled

variable {arguments : Arguments} {settings : Settings} {patience : Nat} {events : List Event}
  {exit : Exit}

theorem rejectsUnless_config
    (arguments : Arguments)
    (settings : Settings) :
    RejectsUnless (arguments.ReadsOverlong settings) (arguments.config settings) := by
  unfold Arguments.config
  split
  · next hnothing =>
      exact (rejectsUnless_rejected _).congr (iff_of_false id fun hreads => hreads.1 hnothing)
  · next hgiven =>
      exact (RunConfig.rejectsUnless_ofSettings settings _ _).congr (and_iff_right hgiven).symm

/-- A defect in the inputs ends the program before the connection is opened. -/
theorem crashed_of_config
    {defect : Defect}
    (hconfig : arguments.config settings = .error (.defect defect))
    (hrun : (runWith settings arguments patience).Runs events exit) :
    exchanges events = [] ∧ exit = .crashed (.defect defect) := by
  obtain ⟨_, rest, rfl, hrest⟩ := Procedure.runs_query_bind_iff.mp hrun
  rw [hconfig] at hrest
  obtain ⟨rfl, rfl⟩ := Procedure.runs_done_iff.mp hrest
  exact ⟨rfl, rfl⟩

theorem Checks.of_runs_runWith
    (hrun : (runWith settings arguments patience).Runs events exit) :
    Checks arguments settings (exchanges events) exit := by
  have hdecides := rejectsUnless_config arguments settings
  by_cases hreads : arguments.ReadsOverlong settings
  · obtain ⟨message, hconfig⟩ := hdecides.breaks hreads
    obtain ⟨hsilent, rfl⟩ := crashed_of_config hconfig hrun
    exact ⟨iff_of_false (by simp) (by simp [hconfig]), fun _ => ⟨message, rfl⟩, fun _ => hsilent⟩
  rcases hdecides.rejects hreads with ⟨config, hconfig⟩ | ⟨message, hconfig⟩
  · obtain ⟨_, rest, rfl, hrest⟩ := Procedure.runs_query_bind_iff.mp hrun
    rw [hconfig] at hrest
    obtain ⟨_, result, _, _, _, rfl⟩ := exists_runs_of_runs_runConnected hrest
    exact ⟨iff_of_false (exitOf_ne_configurationStatus result) (by simp [hconfig]),
      fun hlong => absurd hlong hreads, fun hnone => absurd hconfig (hnone config)⟩
  · unfold runWith at hrun
    rw [hconfig] at hrun
    obtain ⟨hsilent, rfl⟩ := rejected_of_runs_noteError hrun
    exact ⟨iff_of_true rfl ⟨message, hconfig⟩, fun hlong => absurd hlong hreads, fun _ => hsilent⟩

/-- Inputs that are not accepted do end the program. -/
theorem exists_runs_runWith
    (patience : Nat)
    (hnone : ∀ config, arguments.config settings ≠ .ok config) :
    ∃ events exit, (runWith settings arguments patience).Runs events exit := by
  cases hconfig : arguments.config settings with
  | ok config => exact absurd hconfig (hnone config)
  | error failure =>
      unfold runWith
      rw [hconfig]
      cases failure with
      | configuration message =>
          exact ⟨_, _, Procedure.runs_query_bind_iff.mpr ⟨(), _, rfl,
            Procedure.runs_query_bind_iff.mpr ⟨(), [], rfl, .done _⟩⟩⟩
      | _ => exact ⟨_, _, Procedure.runs_query_bind_iff.mpr ⟨(), [], rfl, .done _⟩⟩

theorem ChecksInputs.of_parse
    {surroundings : Surroundings} {texts : List String}
    (hparse : parse texts = .ok arguments) :
    ChecksInputs surroundings texts arguments patience := by
  refine ⟨rejectsUnless_config arguments, ?_, ?_⟩
  · intro events exit hrun
    rw [program, hparse] at hrun
    change (runArguments surroundings arguments patience).Runs events exit at hrun
    rw [runArguments_eq_bind] at hrun
    obtain ⟨loading, rest, loaded, rfl, hloaded, hrest⟩ := Procedure.runs_bind_iff.mp hrun
    refine ⟨loading, rest, loaded, rfl, hloaded, ?_⟩
    rintro settings rfl
    rw [exchanges_append, surroundings.silent_loadOnce none hloaded, List.nil_append]
    exact .of_runs_runWith hrest
  · intro loading settings hloaded hnone
    obtain ⟨rest, exit, hrest⟩ := exists_runs_runWith patience hnone
    refine ⟨rest, exit, runs_program_of_parse hparse hloaded hrest, ?_⟩
    rw [exchanges_append, surroundings.silent_loadOnce none hloaded, List.nil_append]
    exact .of_runs_runWith hrest

end Settled

/-- **Inputs are accepted or rejected, unless a version is too long.**  Every text is read as a
version or rejected, every choice of inputs is accepted or rejected, and the program ends with the
status for a rejected configuration, without asking the service anything, exactly when the inputs
are rejected.  The exception is a version with a run of digits that is too long to be read: it ends
the reading and the program with a defect. -/
theorem rejects_inputs_unless_overlong
    (text : String)
    (settings : Settings)
    (phase oldVersion : Option String) :
    RejectsUnless (Version.IsOverlong text.toList) (Version.parse text) ∧
    (text.toList.length ≤ Decimal.digitLimit → ¬Version.IsOverlong text.toList) ∧
    RejectsUnless (RunConfig.ReadsOverlong settings phase oldVersion)
      (RunConfig.ofSettings settings phase oldVersion) ∧
    ∀ (surroundings : Surroundings) (texts : List String) (arguments : Arguments) (patience : Nat),
      parse texts = .ok arguments →
      ChecksInputs surroundings texts arguments patience := by
  refine ⟨Version.rejectsUnless_parse text, Version.not_isOverlong_of_length,
    RunConfig.rejectsUnless_ofSettings settings phase oldVersion, ?_⟩
  intro surroundings texts arguments patience hparse
  exact .of_parse hparse

/-! ## A version that is malformed, and one that is too long -/

/-- A run before the upgrade from a version. -/
def fromVersion (text : String) : List String :=
  ["--phase=pre_upgrade", "--old-version", text]

def fromVersionArguments (text : String) : Arguments where
  phase := some (.text "pre_upgrade")
  oldVersion := some (.text text)

section FromVersion

variable {text : String} {c : Char} {rest : List Char}

/-- An argument without a dash in front is a value. -/
theorem classify_of_ne_dash
    (hc : c ≠ '-') :
    classify (c :: rest) = .ok (.value (String.ofList (c :: rest))) := by
  unfold classify
  split
  · next hdash =>
      cases hdash
      exact absurd rfl hc
  · rfl

theorem parse_fromVersion
    (text : String)
    (htext : text.toList = c :: rest)
    (hc : c ≠ '-') :
    parse (fromVersion text) = .ok (fromVersionArguments text) := by
  have hphase : classify "--phase=pre_upgrade".toList =
      .ok (.option .phase (some "pre_upgrade")) := by decide +kernel
  have hold : classify "--old-version".toList = .ok (.option .oldVersion none) := by
    decide +kernel
  have hvalue : classify text.toList = .ok (.value text) := by
    rw [htext, classify_of_ne_dash hc, ← htext, String.ofList_toList]
  have hmark : text ≠ "--" := by
    rintro rfl
    cases htext
    exact hc rfl
  have hclassified : classifyAll (fromVersion text) =
      .ok [.option .phase (some "pre_upgrade"), .option .oldVersion none, .value text] := by
    simp only [fromVersion, classifyAll, hphase, hold, hvalue, hmark, if_false]
    rfl
  have hset : Arguments.set ⟨some (.text "pre_upgrade"), none, []⟩ .oldVersion text =
      .ok (fromVersionArguments text) := by
    rw [Arguments.set, if_neg hmark]
    rfl
  rw [parse, hclassified]
  change (Arguments.set ⟨some (.text "pre_upgrade"), none, []⟩ .oldVersion text).bind
    (consume · false []) = _
  rw [hset]
  rfl

theorem chooseVersionText_of_ne
    (settings : Settings)
    (hnonempty : text ≠ "") :
    RunConfig.chooseVersionText settings (some text) = .ok text := by
  simp [RunConfig.chooseVersionText, Option.filter, hnonempty]

theorem config_fromVersion
    {failure : Failure}
    (settings : Settings)
    (hnonempty : text ≠ "")
    (hread : Version.parse text = .error failure) :
    (fromVersionArguments text).config settings = .error failure := by
  have hphase : RunConfig.choosePhase settings (some "pre_upgrade") = .ok .preUpgrade := rfl
  have hchosen := chooseVersionText_of_ne settings hnonempty
  change RunConfig.ofSettings settings (some "pre_upgrade") (some text) = _
  rw [RunConfig.ofSettings, hphase, hchosen]
  change (Version.parse text).bind _ = _
  rw [hread]
  rfl

theorem readsOverlong_fromVersion
    (settings : Settings)
    (hlong : Version.IsOverlong text.toList) :
    (fromVersionArguments text).ReadsOverlong settings := by
  have hnonempty : text ≠ "" := by
    rintro rfl
    exact Version.not_isOverlong_of_length (Nat.zero_le _) hlong
  exact ⟨by simp [fromVersionArguments], ⟨.preUpgrade, rfl⟩, text,
    chooseVersionText_of_ne settings hnonempty, Or.inl hlong⟩

end FromVersion

/-- A base file that says nothing. -/
def silentBase : Rehearsal where
  files := ⟨[(["config", "default.toml"], "")], []⟩

/-- The settings can be loaded. -/
theorem exists_loaded_silentBase :
    ∃ loading settings, (bareSurroundings.loadOnce none).Runs loading (.ok settings) := by
  obtain ⟨loading, loaded, hloading, htest⟩ :=
    exists_runs_of_any_play silentBase (bareSurroundings.loadOnce none)
      (fun loaded => loaded.isOk) (by decide +kernel)
  cases loaded with
  | error failure => cases htest
  | ok settings => exact ⟨loading, settings, hloading⟩

/-- A text that is no version is rejected, and so is the run. -/
theorem rejects_unnumbered_version :
    ("latest".toList.length ≤ Decimal.digitLimit ∧
      ∃ message, Version.parse "latest" = .error (.configuration message)) ∧
    parse (fromVersion "latest") = .ok (fromVersionArguments "latest") ∧
    ∃ events,
      (program bareSurroundings (fromVersion "latest") 1).Runs events
        (.status configurationStatus) ∧
      exchanges events = [] := by
  have hshort : "latest".toList.length ≤ Decimal.digitLimit := by decide
  have hparse := parse_fromVersion "latest" rfl (by decide)
  obtain ⟨hreads, hfits, _, hprogram⟩ := rejects_inputs_unless_overlong "latest" {} none none
  have hrejected : ∃ message, Version.parse "latest" = .error (.configuration message) := by
    rcases hreads.rejects (hfits hshort) with ⟨version, hread⟩ | hrejected
    · have hnone : (Version.parse "latest").isOk = false := by decide +kernel
      rw [hread] at hnone
      cases hnone
    · exact hrejected
  obtain ⟨loading, settings, hloading⟩ := exists_loaded_silentBase
  obtain ⟨message, hread⟩ := hrejected
  have hconfig := config_fromVersion settings (by decide) hread
  have hnone : ∀ config, (fromVersionArguments "latest").config settings ≠ .ok config := by
    simp [hconfig]
  obtain ⟨rest, exit, hrun, hchecks⟩ :=
    (hprogram bareSurroundings (fromVersion "latest") (fromVersionArguments "latest") 1
      hparse).exists_run loading settings hloading hnone
  obtain rfl := hchecks.rejected.mpr ⟨message, hconfig⟩
  exact ⟨⟨hshort, message, hread⟩, hparse, loading ++ rest, hrun, hchecks.silent hnone⟩

/-- One more digit than can be read. -/
def longMajor : List Char :=
  List.replicate (Decimal.digitLimit + 1) '1'

/-- A version with such a run of digits. -/
def overlong : String :=
  String.ofList (longMajor ++ ['.', '0'])

theorem isOverlong_overlong :
    Version.IsOverlong overlong.toList := by
  have hmajor : Version.IsRun longMajor := by
    refine ⟨by simp [longMajor], fun c hmem => ?_⟩
    rw [List.eq_of_mem_replicate hmem]
    decide
  have hsplits : Version.Splits overlong.toList longMajor ['0'] [] := by
    refine ⟨⟨[], [], [], ?_, by simp, Or.inl rfl, by simp⟩, hmajor, Version.isRun_digit (by decide),
      by simp [Version.Stops], by simp⟩
    simp [overlong]
  refine ⟨⟨longMajor, ['0'], none, none⟩, Version.ofChars?_eq_some_iff.mpr ⟨[], hsplits, Or.inl ?_⟩,
    Or.inr ⟨?_, longMajor, ?_, ?_⟩⟩
  · refine .bare ?_ .none
    rintro ⟨_, _, hopens, _⟩
    cases hopens
  · simp [Version.HasBuild, Version.buildDigits?]
  · simp [Version.Parts.components]
  · simp [longMajor]

/-- The failure is no configuration error, and the program crashes. -/
theorem crashes_on_overlong_version :
    (∃ message, Version.parse overlong = .error (.defect (.badValue message))) ∧
    parse (fromVersion overlong) = .ok (fromVersionArguments overlong) ∧
    ∃ events settings message,
      (fromVersionArguments overlong).config settings = .error (.defect (.badValue message)) ∧
      (program bareSurroundings (fromVersion overlong) 1).Runs events
        (.crashed (.defect (.badValue message))) := by
  have hparse : parse (fromVersion overlong) = .ok (fromVersionArguments overlong) := by
    have hchars : overlong.toList =
        '1' :: (List.replicate Decimal.digitLimit '1' ++ ['.', '0']) := by
      rw [overlong, String.toList_ofList, longMajor, List.replicate_succ, List.cons_append]
    exact parse_fromVersion overlong hchars (by decide)
  obtain ⟨loading, settings, hloading⟩ := exists_loaded_silentBase
  obtain ⟨message, hconfig⟩ := (rejectsUnless_config _ _).breaks
    (readsOverlong_fromVersion settings isOverlong_overlong)
  have hnone : ∀ config, (fromVersionArguments overlong).config settings ≠ .ok config := by
    simp [hconfig]
  obtain ⟨rest, exit, hrest⟩ := exists_runs_runWith 1 hnone
  obtain ⟨_, rfl⟩ := crashed_of_config hconfig hrest
  exact ⟨(Version.rejectsUnless_parse overlong).breaks isOverlong_overlong, hparse,
    loading ++ rest, settings, message, hconfig, runs_program_of_parse hparse hloading hrest⟩

end CommandLine
end RestartCheck
