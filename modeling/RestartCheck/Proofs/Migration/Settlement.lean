import RestartCheck.Proofs.Migration.Transience

/-!
# Once migrated, always migrated

A migration cycle ends normally in two ways: the first detection finds nothing pending, or a wait
ends with a detection that does.  Either way every resource is then remembered as one that needs no
migration any more.  No later detection takes that back: it fails, or it reports the same.

**Algorithm.**  The statuses that are not pending are the last ones of the lifecycle, and the memory
never goes back.  So the memory stays settled once it is, whatever detections follow; and what a
detection reports it remembers as well.

**Results.**
* `keeps_of_runs_triggerRequired`: commands leave the memory as it was.
* `settledIn_of_runs_migratePending`: the memory after a cycle that ends normally.
* `SettledIn.ahead`: a settled memory stays settled.
* `settles_again_of_successive`: what later detections report.
-/

namespace RestartCheck
namespace Migration

open RestartCheck.Action Trace

/-- Every resource is remembered with a status that is not pending. -/
def SettledIn
    (statuses : OrderedMap ResourceRef MigrationStatus)
    (refs : List ResourceRef) : Prop :=
  ∀ ref ∈ refs, ∃ status,
    OrderedMap.lookup statuses ref = some status ∧ status.isPending = false

theorem not_isPending_iff
    {status : MigrationStatus} :
    status.isPending = false ↔ 2 ≤ status.rank := by
  rw [← Nat.not_lt, ← MigrationStatus.isPending_iff, Bool.not_eq_true]

/-- Nothing is ahead of a status that is not pending but another such status. -/
theorem SettledIn.ahead
    {before after : OrderedMap ResourceRef MigrationStatus} {refs : List ResourceRef}
    (hsettled : SettledIn before refs)
    (hahead : Ahead before after) :
    SettledIn after refs := by
  intro ref hmem
  obtain ⟨previous, hprevious, hdone⟩ := hsettled ref hmem
  obtain ⟨status, hstatus, hrank⟩ := hahead ref previous hprevious
  exact ⟨status, hstatus, not_isPending_iff.mpr (Nat.le_trans (not_isPending_iff.mp hdone) hrank)⟩

/-! ## Commands leave the memory as it was -/

section Commands

variable {path : String} {ref : ResourceRef} {before after : Session} {events : List Event}

theorem keeps_of_runs_migrate
    {result : Except Failure MigrationOutcome}
    (hrun : (migrate path ref).Runs before events result after) :
    after = before := by
  rcases runs_call_bind_iff.mp hrun with ⟨response, rest, _, hcounted⟩ | ⟨_, _, _, hafter⟩
  · rcases runs_liftM_bind_iff.mp hcounted with ⟨total, _, htold⟩ | ⟨_, _, _, _, hafter⟩
    · split at htold
      · obtain ⟨_, _, hend⟩ := runs_note_bind_iff.mp htold
        exact (runs_pure_iff.mp hend).2.2
      · obtain ⟨_, _, hend⟩ := runs_note_bind_iff.mp htold
        exact (runs_pure_iff.mp hend).2.2
    · exact hafter
  · exact hafter

theorem keeps_of_runs_triggerRequired
    {done : OrderedMap ResourceRef MigrationOutcome}
    {statuses : OrderedMap ResourceRef MigrationStatus}
    {result : Except Failure (OrderedMap ResourceRef MigrationOutcome)}
    (hrun : (triggerRequired path done statuses).Runs before events result after) :
    after = before := by
  induction statuses generalizing done before events with
  | nil => exact (runs_pure_iff.mp hrun).2.2
  | cons entry rest ih =>
      obtain ⟨ref, status⟩ := entry
      unfold triggerRequired at hrun
      split at hrun
      · rcases runs_bind_iff.mp hrun with ⟨_, middle, _, _, _, hmigrated, hrest⟩ | ⟨_, _, hmigrated⟩
        · rw [ih hrest, keeps_of_runs_migrate hmigrated]
        · exact keeps_of_runs_migrate hmigrated
      · exact ih hrun

end Commands

/-! ## The memory after a cycle -/

section Cycle

variable {harness : Harness} {path : String} {refs others : List ResourceRef}
  {interval timeout : Float} {found : OrderedMap ResourceRef MigrationStatus}
  {ref : ResourceRef} {status : MigrationStatus} {before after : Session} {events : List Event}

/-- A detection that finds nothing pending leaves the memory settled. -/
theorem settledIn_of_runs_detect
    (hrun : (detect path refs).Runs before events (.ok found) after)
    (hquiet : anyPending found = false) :
    SettledIn after.statuses refs := by
  obtain ⟨_, _, _, _, _, _, _, hclassified⟩ := exists_answer_of_runs_detect hrun
  intro ref hmem
  obtain ⟨status, _, hlookup⟩ := hclassified ref hmem
  exact ⟨status, remembers_of_runs_detect hrun ref status hlookup,
    anyPending_eq_false_iff.mp hquiet _ (OrderedMap.mem_of_lookup_eq_some hlookup)⟩

/-- A wait that ends normally leaves the memory settled. -/
theorem settledIn_of_runs_awaitMigrated
    (hrun : (awaitMigrated harness refs interval timeout).Runs before events (.ok found) after) :
    SettledIn after.statuses refs := by
  obtain ⟨_, _, _, hdetected, hquiet, _⟩ := exists_detection_of_runs_awaitMigrated hrun
  exact settledIn_of_runs_detect hdetected hquiet

/-- A cycle that ends normally leaves the memory settled, whether it had to wait or not. -/
theorem settledIn_of_runs_migratePending
    {outcomes : OrderedMap ResourceRef MigrationOutcome}
    (hrun : (migratePending harness refs interval timeout).Runs before events (.ok outcomes)
      after) :
    SettledIn after.statuses refs := by
  obtain ⟨statuses, middle, _, _, _, hdetected, hrest⟩ := runs_bind_ok_iff.mp hrun
  obtain ⟨_, later, _, _, _, htriggered, hwaited⟩ := runs_bind_ok_iff.mp hrest
  cases hpending : anyPending statuses with
  | false =>
      rw [hpending] at hwaited
      obtain ⟨_, _, hend⟩ := runs_note_bind_iff.mp hwaited
      obtain ⟨_, _, rfl⟩ := runs_pure_iff.mp hend
      rw [keeps_of_runs_triggerRequired htriggered]
      exact settledIn_of_runs_detect hdetected hpending
  | true =>
      rw [hpending] at hwaited
      obtain ⟨_, _, _, _, _, hawaited, hend⟩ := runs_bind_ok_iff.mp hwaited
      obtain ⟨_, _, rfl⟩ := runs_pure_iff.mp hend
      exact settledIn_of_runs_awaitMigrated hawaited

/-! ## Later detections -/

/-- A detection that starts from a settled memory reports none of its resources as pending. -/
theorem not_isPending_of_runs_detect
    (hrun : (detect path others).Runs before events (.ok found) after)
    (hsettled : SettledIn before.statuses refs)
    (hmem : ref ∈ refs)
    (hlookup : OrderedMap.lookup found ref = some status) :
    status.isPending = false := by
  obtain ⟨known, hknown, hdone⟩ := hsettled.ahead (ahead_of_runs_detect hrun) ref hmem
  cases (remembers_of_runs_detect hrun ref status hlookup).symm.trans hknown
  exact hdone

/-- Of a detection that is asked for these resources nothing is pending. -/
theorem not_isPending_of_mem
    {entry : ResourceRef × MigrationStatus}
    (hrun : (detect path refs).Runs before events (.ok found) after)
    (hsettled : SettledIn before.statuses refs)
    (hmem : entry ∈ found) :
    entry.2.isPending = false := by
  have hkey : entry.1 ∈ OrderedMap.keys found := List.mem_map_of_mem hmem
  rw [keys_of_runs_detect hrun, List.mem_eraseDups] at hkey
  exact not_isPending_of_runs_detect hrun hsettled hkey
    (OrderedMap.lookup_of_mem (nodup_keys_of_runs_detect hrun) hmem)

/-- From a settled memory on, every detection fails or reports the resources as settled. -/
theorem settles_again_of_successive
    {statuses : OrderedMap ResourceRef MigrationStatus} {inquiries : List Inquiry}
    {inquiry : Inquiry}
    (hsettled : SettledIn statuses refs)
    (hsuccessive : Successive path statuses inquiries)
    (hmem : inquiry ∈ inquiries) :
    inquiry.Failed
    ∨
    ∀ ref ∈ inquiry.refs, ref ∈ refs →
      inquiry.Returned ref .notRequired ∨ inquiry.Returned ref .completed := by
  have hsound : inquiry.IsSound path := hsuccessive.isSound_of_mem hmem
  have hbefore := hsettled.ahead (hsuccessive.ahead_of_mem hmem)
  cases hresult : inquiry.result with
  | error failure => exact Or.inl ⟨failure, hresult⟩
  | ok found =>
      unfold Inquiry.IsSound at hsound
      rw [hresult] at hsound
      obtain ⟨_, _, _, _, _, _, _, hclassified⟩ := exists_answer_of_runs_detect hsound
      refine Or.inr fun ref hasked href => ?_
      obtain ⟨status, _, hlookup⟩ := hclassified ref hasked
      have hdone := not_isPending_of_runs_detect hsound hbefore href hlookup
      rcases MigrationStatus.isPending_eq_false_iff.mp hdone with rfl | rfl
      · exact Or.inl ⟨found, hresult, hlookup⟩
      · exact Or.inr ⟨found, hresult, hlookup⟩

end Cycle

end Migration
end RestartCheck
