import RestartCheck.Proofs.Capability.Gates

/-!
# Support only grows

A capability that is supported at a version is supported at every later one, and so it is when the
version is not known, since then the newest row is meant.  Whether something applies is decided at
the version that the cluster started from; what is looked up is looked up at the version that
answers requests, which is not earlier.

**Results.**
* `Version.le_refl`, `Version.le_trans`: the order of versions.
* `CapabilityTable.supports_iff`: support is a row that applies.
* `CapabilityTable.supports_mono`: support only grows.
* `Capability.supports_taskStateField`: the rows that concern background jobs start together.
-/

namespace RestartCheck

namespace Version

theorem compare_eq_compareLex (a b : Version) :
    a.compare b =
      compareLex (compareOn major) (compareLex (compareOn minor)
        (compareLex (compareOn patch) (compareOn build))) a b :=
  rfl

theorem le_iff_isLE
    {a b : Version} :
    a ≤ b ↔ (a.compare b).isLE = true := by
  change a.compare b ≠ .gt ↔ _
  cases a.compare b <;> decide

theorem le_refl (a : Version) :
    a ≤ a := by
  rw [le_iff_isLE, compare_self]
  rfl

theorem le_trans
    {a b c : Version}
    (hfirst : a ≤ b)
    (hsecond : b ≤ c) :
    a ≤ c := by
  rw [le_iff_isLE, compare_eq_compareLex] at hfirst hsecond ⊢
  exact Std.TransCmp.isLE_trans hfirst hsecond

end Version

/-- The second version is not known, or not earlier than the first. -/
def Version.Precedes
    (earlier : Version)
    (later : Option Version) : Prop :=
  ∀ version ∈ later, earlier ≤ version

namespace CapabilityTable

variable {table : CapabilityTable} {capability : String} {version : Option Version}

theorem supports_iff_exists_entry :
    table.supports capability version = .ok true ↔
      ∃ row, table.entry capability version = .ok row := by
  unfold supports
  cases table.entry capability version with
  | ok row => simp
  | error failure => cases failure <;> simp

/-- A capability is supported when one of its rows applies. -/
theorem supports_iff :
    table.supports capability version = .ok true ↔
      ∃ row ∈ table.rows capability, row.minVersion.Precedes version := by
  have hrows : table.supports capability version = .ok true ↔
      CapabilityEntry.newest? (applicable (table.rows capability) version) ≠ none := by
    rw [supports_iff_exists_entry, entry_eq_elim]
    cases CapabilityEntry.newest? (applicable (table.rows capability) version) <;> simp
  rw [hrows, Ne, CapabilityEntry.newest?_eq_none_iff, ← List.isEmpty_iff, Bool.not_eq_true,
    List.isEmpty_eq_false_iff_exists_mem]
  cases version with
  | none => simp [applicable, Version.Precedes]
  | some known => simp [applicable, Version.Precedes]

/-- Support only grows, and an unknown version supports whatever some version does. -/
theorem supports_mono
    {earlier : Version}
    (hsupports : table.supports capability (some earlier) = .ok true)
    (hlater : earlier.Precedes version) :
    table.supports capability version = .ok true := by
  obtain ⟨row, hmem, hrow⟩ := supports_iff.mp hsupports
  refine supports_iff.mpr ⟨row, hmem, fun known hknown => ?_⟩
  exact Version.le_trans (hrow earlier rfl) (hlater known hknown)

/-- A lookup of a supported capability succeeds. -/
theorem resolve_ne_error_of_supports
    {failure : Failure}
    (hsupports : table.supports capability version = .ok true) :
    table.resolve capability version ≠ .error failure := by
  obtain ⟨row, hentry⟩ := supports_iff_exists_entry.mp hsupports
  rw [resolve, hentry]
  simp [Except.map]

end CapabilityTable

namespace Capability

/-- The version from which the built-in table describes every cluster. -/
def baseVersion : Version := ⟨5, 0, 0, Version.releaseBuild⟩

variable {version : Version}

theorem supports_healthWait
    (hbase : baseVersion ≤ version) :
    standard.supports healthWait (some version) = .ok true := by
  refine CapabilityTable.supports_iff.mpr
    ⟨⟨healthWait, baseVersion, [("wait_for_no_relocating_shards", .string "true")]⟩, ?_, ?_⟩
  · exact List.mem_cons_self
  · rintro _ ⟨⟩
    exact hbase

theorem supports_watcherService
    (hbase : baseVersion ≤ version) :
    standard.supports watcherService (some version) = .ok true := by
  refine CapabilityTable.supports_iff.mpr ⟨_, List.mem_cons_self, ?_⟩
  rintro _ ⟨⟩
  exact hbase

/-- Where background jobs are supported, so is the field that holds their state. -/
theorem supports_taskStateField
    (hjobs : standard.supports rollupJobs (some version) = .ok true) :
    standard.supports taskStateField (some version) = .ok true := by
  obtain ⟨row, hmem, hrow⟩ := CapabilityTable.supports_iff.mp hjobs
  obtain rfl := List.mem_singleton.mp hmem
  exact CapabilityTable.supports_iff.mpr ⟨_, List.mem_cons_self, hrow⟩

end Capability
end RestartCheck
