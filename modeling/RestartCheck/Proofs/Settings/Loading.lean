import RestartCheck.Settings.Loading
import RestartCheck.Proofs.Effect.Trace

/-!
# Loading settings leaves the service alone

Settings are read from the environment and from files.  Whatever is found there, nothing is
exchanged with the service before they are loaded.

**Results.**
* `silent_bind`, `silent_run_bind`: what is composed of silent parts is silent.
* `Settings.Surroundings.silent_loadOnce`: loading is silent.
-/

namespace RestartCheck

open Trace

variable {α β : Type}

/-- No run of the procedure exchanges anything with the service. -/
def Procedure.IsSilent (procedure : Procedure α) : Prop :=
  ∀ ⦃events : List Event⦄ ⦃value : α⦄, procedure.Runs events value → exchanges events = []

namespace Procedure

theorem silent_pure
    (value : α) :
    IsSilent (pure value : Procedure α) := by
  intro events result hrun
  rw [(runs_done_iff.mp hrun).1, exchanges_nil]

theorem silent_query
    {question : Query}
    (hother : ∀ request, question ≠ .call request) :
    IsSilent (query question) := by
  intro events value hrun
  obtain ⟨answer, rest, rfl, hrest⟩ := runs_ask_iff.mp hrun
  rw [(runs_done_iff.mp hrest).1]
  cases question with
  | call request => exact absurd rfl (hother request)
  | _ => rfl

theorem silent_bind
    {procedure : Procedure α} {next : α → Procedure β}
    (hprocedure : procedure.IsSilent)
    (hnext : ∀ value, (next value).IsSilent) :
    IsSilent (procedure >>= next) := by
  intro events result hrun
  obtain ⟨front, back, value, rfl, hfront, hback⟩ := runs_bind_iff.mp hrun
  rw [exchanges_append, hprocedure hfront, hnext value hback]
  rfl

end Procedure

namespace Settings
namespace Surroundings

open Procedure

theorem silent_run_bind
    {loading : Loading α} {next : α → Loading β}
    (hloading : loading.run.IsSilent)
    (hnext : ∀ value, (next value).run.IsSilent) :
    (loading >>= next).run.IsSilent := by
  rw [ExceptT.run_bind]
  refine silent_bind hloading fun outcome => ?_
  cases outcome with
  | ok value => exact hnext value
  | error failure => exact silent_pure _

theorem silent_ask
    {answer : Procedure (Except Files.NameTooLong α)}
    (hanswer : answer.IsSilent) :
    (ask answer).run.IsSilent := by
  refine silent_bind hanswer fun outcome => ?_
  cases outcome with
  | ok value => exact silent_pure _
  | error failure => exact silent_pure _

theorem silent_readFile
    (path : Files.Path) :
    (readFile path).run.IsSilent :=
  silent_ask (silent_query (by simp))

theorem silent_located
    (path : Files.Path) :
    (located path).run.IsSilent := by
  unfold located
  split
  · exact silent_pure _
  refine silent_run_bind ?_ fun home => ?_
  · exact silent_bind (silent_query (by simp)) fun _ => silent_pure _
  split
  · exact silent_pure _
  · exact silent_pure _

theorem silent_sourceAt
    (path : Files.Path) :
    (sourceAt path).run.IsSilent :=
  silent_run_bind (silent_located path) fun place =>
    silent_run_bind (silent_readFile place) fun _ => silent_pure _

theorem silent_nearest?
    (directories : List Files.Path) :
    (nearest? directories).run.IsSilent := by
  induction directories with
  | nil => exact silent_pure _
  | cons directory rest ih =>
      refine silent_run_bind (silent_readFile _) fun found => ?_
      split
      · exact silent_pure _
      · exact ih

variable (surroundings : Surroundings)

theorem silent_settingsDirectory :
    surroundings.settingsDirectory.run.IsSilent := by
  unfold settingsDirectory
  split
  · refine silent_run_bind (silent_ask (silent_query (by simp))) fun found => ?_
    split
    · exact silent_pure _
    · exact silent_pure _
  · exact silent_run_bind (silent_nearest? _) fun found => silent_pure _

theorem silent_load
    (given : Node.Entries)
    (baseRequired : Bool) :
    (surroundings.load given baseRequired).run.IsSilent := by
  have hsources : ∀ directory : Files.Path,
      (do
        let special ← sourceAt (directory.child surroundings.specialName)
        let base ← sourceAt (directory.child baseName)
        ExceptT.mk (pure (ofSources given surroundings.environment special base)) :
          Loading Settings).run.IsSilent :=
    fun directory => silent_run_bind (silent_sourceAt _) fun special =>
      silent_run_bind (silent_sourceAt _) fun base => silent_pure _
  refine silent_run_bind (silent_settingsDirectory surroundings) fun directory => ?_
  refine silent_run_bind (silent_readFile _) fun base => ?_
  split
  · exact silent_run_bind (silent_pure _) fun _ => hsources directory
  · exact hsources directory

theorem silent_loadOnce
    (kept : Option Settings) :
    (surroundings.loadOnce kept).IsSilent := by
  cases kept with
  | some settings => exact silent_pure _
  | none => exact silent_load surroundings [] true

end Surroundings
end Settings
end RestartCheck
