import RestartCheck.Proofs.Migration.Settlement
import RestartCheck.Proofs.Watcher.Evidence

/-!
# The check on the watch stores is never the one that fails

The second half of the watcher scenario migrates the stores of the watches, detects them once more
and fails when one of them still needs migration.  It never does: the migration leaves the memory
settled, and the detection fails by itself before it reports a store that has gone back.

**Algorithm.**  The half without the check has the same runs.  The two differ in one place only, and
there the check is made on statuses that a detection has reported from a settled memory.

**Results.**
* `not_isPending_of_runs_migrateAndDetect`: the statuses that the check is made on.
* `runs_postUpgrade_iff_unchecked`: the half without the check.
* `settled_for_good`: later detections, and the check.
-/

namespace RestartCheck
namespace Watcher

open RestartCheck.Action Trace

/-- The migration of the stores up to the statuses that the check is made on. -/
def migrateAndDetect
    (settings : WatcherSettings)
    (ctx : ScenarioContext) : Action (OrderedMap ResourceRef MigrationStatus) := do
  let refs ← Action.forEach stores fun store => Action.ofExcept (ctx.resource store)
  let outcomes ← Migration.migratePending ctx.harness refs settings.poll.interval
    settings.poll.timeout
  Action.each outcomes fun (ref, outcome) =>
    Action.note .info "watch_store_migrated"
      [("store", .json (.string ref.text)), ("outcome", .json (.string outcome.literal))]
  Migration.detect ctx.harness.assistancePath refs

/-- The check that no store still needs migration. -/
def checkMigrated
    (remaining : OrderedMap ResourceRef MigrationStatus) : Except Failure Unit :=
  let pending := Text.sorted
    ((remaining.filter fun entry => entry.2.isPending).map fun entry => entry.1.text)
  check pending.isEmpty ("watch stores still need migration: " ++ Text.quotedList pending)

/-- The second half without the check on the stores. -/
def verifyUnchecked
    (settings : WatcherSettings)
    (ctx : ScenarioContext) : Action Unit := do
  let service ← ctx.serving Capability.watcherService
  let _ ← Health.await ctx.harness.table ctx.config.oldVersion (some healthResources)
  let _ ← migrateAndDetect settings ctx
  startWatcher settings ctx (← service.textAt "start_path")
  checkAndStop settings ctx service

section Settlement

variable {settings : WatcherSettings} {ctx : ScenarioContext}
  {remaining : OrderedMap ResourceRef MigrationStatus} {before after : Session}
  {events : List Event}

/-- The half with the check in its place. -/
theorem verify_eq
    (settings : WatcherSettings)
    (ctx : ScenarioContext) :
    verify settings ctx = (do
      let service ← ctx.serving Capability.watcherService
      let _ ← Health.await ctx.harness.table ctx.config.oldVersion (some healthResources)
      let remaining ← migrateAndDetect settings ctx
      checkMigrated remaining
      startWatcher settings ctx (← service.textAt "start_path")
      checkAndStop settings ctx service) := by
  simp only [verify, migrateStores, migrateAndDetect, checkMigrated, bind_assoc]

theorem not_isPending_of_runs_migrateAndDetect
    {entry : ResourceRef × MigrationStatus}
    (hrun : (migrateAndDetect settings ctx).Runs before events (.ok remaining) after)
    (hmem : entry ∈ remaining) :
    entry.2.isPending = false := by
  obtain ⟨refs, _, _, _, _, _, hmigrating⟩ := runs_bind_ok_iff.mp hrun
  obtain ⟨outcomes, middle, _, _, _, hmigrated, hnoted⟩ := runs_bind_ok_iff.mp hmigrating
  obtain ⟨_, _, _, _, _, hnotes, hdetected⟩ := runs_bind_ok_iff.mp hnoted
  obtain ⟨_, _, rfl⟩ := runs_each_note_iff.mp hnotes
  exact Migration.not_isPending_of_mem hdetected
    (Migration.settledIn_of_runs_migratePending hmigrated) hmem

/-- The check on statuses of which none is pending succeeds. -/
theorem checkMigrated_eq_ok
    (hdone : ∀ entry ∈ remaining, entry.2.isPending = false) :
    checkMigrated remaining = .ok () := by
  have hnone : (remaining.filter fun entry => entry.2.isPending) = [] := by
    simpa using hdone
  rw [checkMigrated, hnone]
  exact check_eq_ok_iff.mpr rfl

/-- The check on the stores changes no run of the half. -/
theorem runs_verify_iff_unchecked
    {result : Except Failure Unit} :
    (verify settings ctx).Runs before events result after ↔
      (verifyUnchecked settings ctx).Runs before events result after := by
  rw [verify_eq]
  refine runs_bind_congr fun _ => runs_bind_congr fun _ => runs_bind_congr fun hdetected => ?_
  rw [checkMigrated_eq_ok fun _ hmem => not_isPending_of_runs_migrateAndDetect hdetected hmem]
  rfl

end Settlement

/-- **Once migrated, always migrated.**  After a migration cycle that ends normally, every later
detection with the same memory fails or reports each resource of the cycle as not required or
completed.  Therefore the check on the watch stores never fails: the half without it has the same
runs. -/
theorem settled_for_good :
    (∀ (harness : Harness) (refs : List ResourceRef) (interval timeout : Float)
        (before after : Session) (events : List Event)
        (outcomes : OrderedMap ResourceRef MigrationOutcome) (inquiries : List Migration.Inquiry),
      (Migration.migratePending harness refs interval timeout).Runs before events (.ok outcomes)
        after →
      Migration.Successive harness.assistancePath after.statuses inquiries →
      ∀ inquiry ∈ inquiries,
        inquiry.Failed
        ∨
        ∀ ref ∈ inquiry.refs, ref ∈ refs →
          inquiry.Returned ref .notRequired ∨ inquiry.Returned ref .completed) ∧
    ∀ (settings : WatcherSettings) (ctx : ScenarioContext) (before after : Session)
        (events : List Event) (result : Except Failure Unit),
      ((scenario settings).postUpgrade ctx).Runs before events result after ↔
        (verifyUnchecked settings ctx).Runs before events result after := by
  constructor
  · intro harness refs interval timeout before after events outcomes inquiries hrun hsuccessive
      inquiry hmem
    exact Migration.settles_again_of_successive (Migration.settledIn_of_runs_migratePending hrun)
      hsuccessive hmem
  · intro settings ctx before after events result
    exact runs_verify_iff_unchecked

/-- A store is migrated and detected once more, and a half that passes does so without the check. -/
theorem settled_in_migrating :
    ∃ events outcomes inquiry unchecked,
      (Migration.migratePending Migration.standardHarness [Migration.migratingStore] 1.0 30.0).Runs
        {} events (.ok outcomes) { statuses := [(Migration.migratingStore, .completed)] } ∧
      Migration.Successive Harness.standardAssistancePath
        [(Migration.migratingStore, .completed)] [inquiry] ∧
      inquiry.refs = [Migration.migratingStore] ∧
      (inquiry.Returned Migration.migratingStore .notRequired ∨
        inquiry.Returned Migration.migratingStore .completed) ∧
      (verifyUnchecked {} standardContext).Runs {} unchecked (.ok ()) settledSession := by
  obtain ⟨events, outcomes, hrun⟩ : CanSucceed
      (Migration.migratePending Migration.standardHarness [Migration.migratingStore] 1.0 30.0) {}
      { statuses := [(Migration.migratingStore, .completed)] } :=
    canSucceed_of_rehearsal Migration.migrating (by decide +kernel)
  obtain ⟨hcompleted, _⟩ :=
    Migration.exists_runs_detect_of_halfRead Harness.standardAssistancePath
  obtain ⟨detecting, hdetected, _⟩ := Migration.exists_runs_detect Harness.standardAssistancePath
    { statuses := [(Migration.migratingStore, .completed)] } hcompleted
    fun _ => Migration.not_isBehind_completed
  have hsuccessive : Migration.Successive Harness.standardAssistancePath
      [(Migration.migratingStore, .completed)] [⟨_, _, _, _, _⟩] :=
    ⟨rfl, hdetected, trivial⟩
  obtain ⟨unchecked, _, hpassing⟩ := canSucceed_postUpgrade
  obtain ⟨hlater, hsame⟩ := settled_for_good
  rcases hlater _ _ _ _ _ _ _ _ _ hrun hsuccessive _ List.mem_cons_self with
    ⟨_, hfailed⟩ | hreturned
  · cases hfailed
  · exact ⟨events, outcomes, _, unchecked, hrun, hsuccessive, rfl,
      hreturned _ List.mem_cons_self List.mem_cons_self, (hsame _ _ _ _ _ _).mp hpassing⟩

end Watcher
end RestartCheck
