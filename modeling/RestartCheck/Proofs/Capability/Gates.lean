import RestartCheck.Capability

/-!
# Which behaviour is in force at a version

Some capabilities have one row in the built-in table, others change their behaviour at a gate, which
is the minimum version of their second row.  Builds that precede the release of a gate are below it.

**Results.**
* `Version.compare_swap`, `Version.lt_iff_not_le`: versions are compared the same way from either
  side.
* `CapabilityTable.entry_eq_elim`, `CapabilityTable.resolve_eq_ok_iff`: a lookup finds the newest
  row that applies.
* `descriptor_of_resolve_single`, `descriptor_of_resolve_gated`: what a lookup that succeeds finds.
* `rollupJobs_of_resolve`, `taskStateField_of_resolve`: the rows that concern background jobs.
-/

namespace RestartCheck

namespace Version

theorem compare_swap (a b : Version) :
    (a.compare b).swap = b.compare a := by
  unfold compare
  simp only [Ordering.swap_then]
  rw [Std.OrientedOrd.eq_swap (a := b.major), Std.OrientedOrd.eq_swap (a := b.minor),
    Std.OrientedOrd.eq_swap (a := b.patch), Std.OrientedOrd.eq_swap (a := b.build)]

theorem lt_iff_not_le {a b : Version} :
    a < b ↔ ¬b ≤ a := by
  change a.compare b = .lt ↔ ¬b.compare a ≠ .gt
  rw [← compare_swap a b]
  cases a.compare b <;> simp

end Version

namespace CapabilityTable

variable {table : CapabilityTable} {capability : String} {version : Option Version}
  {found : Json.Members}

/-- The rows of a capability, as they stand in the table. -/
def rows
    (table : CapabilityTable)
    (capability : String) : List CapabilityEntry :=
  table.entries.filter fun row => row.capability == capability

/-- The rows that apply at a version; without a version all of them do. -/
def applicable
    (rows : List CapabilityEntry) :
    Option Version → List CapabilityEntry
  | none => rows
  | some version => rows.filter fun row => row.minVersion ≤ version

/-- A lookup is for the newest row that applies. -/
theorem entry_eq_elim
    (table : CapabilityTable)
    (capability : String)
    (version : Option Version) :
    table.entry capability version =
      (CapabilityEntry.newest? (applicable (table.rows capability) version)).elim
        (.error (.missing capability version)) .ok := by
  unfold entry
  cases version with
  | none => cases hnewest : CapabilityEntry.newest? (table.rows capability) <;>
      simp_all [rows, applicable]
  | some known => cases hnewest : CapabilityEntry.newest? (applicable (table.rows capability)
      (some known)) <;> simp_all [rows, applicable]

/-- A lookup that fails says that the capability is missing. -/
theorem eq_missing_of_resolve
    {failure : Failure}
    (hfailed : table.resolve capability version = .error failure) :
    failure = .missing capability version := by
  rw [resolve, entry_eq_elim] at hfailed
  cases hnewest : CapabilityEntry.newest? (applicable (table.rows capability) version) with
  | none =>
      rw [hnewest] at hfailed
      exact (Except.error.inj hfailed).symm
  | some row =>
      rw [hnewest] at hfailed
      cases hfailed

/-- A lookup fails below all rows of the capability. -/
theorem lt_of_resolve_eq_error
    {failure : Failure}
    (hfailed : table.resolve capability version = .error failure) :
    ∀ row ∈ table.rows capability, ∃ v, version = some v ∧ v < row.minVersion := by
  intro row hmem
  have hnone : CapabilityEntry.newest? (applicable (table.rows capability) version) = none := by
    rw [resolve, entry_eq_elim] at hfailed
    cases hnewest : CapabilityEntry.newest? (applicable (table.rows capability) version) with
    | none => rfl
    | some known =>
        rw [hnewest] at hfailed
        cases hfailed
  rw [CapabilityEntry.newest?_eq_none_iff] at hnone
  cases version with
  | none =>
      rw [applicable] at hnone
      rw [hnone] at hmem
      cases hmem
  | some v =>
      rw [applicable, List.filter_eq_nil_iff] at hnone
      exact ⟨v, rfl, Version.lt_iff_not_le.mpr (by simpa using hnone row hmem)⟩

theorem resolve_eq_ok_iff :
    table.resolve capability version = .ok found ↔
      ∃ row,
        CapabilityEntry.newest? (applicable (table.rows capability) version) = some row ∧
        row.descriptor = found := by
  rw [resolve, entry_eq_elim]
  cases CapabilityEntry.newest? (applicable (table.rows capability) version) with
  | none => simp [Except.map]
  | some row => simp [Except.map]

/-- A lookup fails for a version that is below all rows of the capability. -/
theorem resolve_of_lt
    {v : Version}
    (hbelow : ∀ row ∈ table.rows capability, v < row.minVersion) :
    table.resolve capability (some v) = .error (.missing capability (some v)) := by
  have hnone : applicable (table.rows capability) (some v) = [] := by
    rw [applicable, List.filter_eq_nil_iff]
    intro row hmem
    simpa using Version.lt_iff_not_le.mp (hbelow row hmem)
  rw [resolve, entry_eq_elim, hnone]
  rfl

/-- A lookup of a capability with one row finds that row. -/
theorem descriptor_of_resolve_single
    {row : CapabilityEntry}
    (hrows : table.rows capability = [row])
    (hresolve : table.resolve capability version = .ok found) :
    found = row.descriptor := by
  obtain ⟨known, hknown, rfl⟩ := resolve_eq_ok_iff.mp hresolve
  rw [hrows] at hknown
  have hmem : known ∈ [row] := by
    have hlisted := CapabilityEntry.mem_of_newest?_eq_some hknown
    cases version with
    | none => exact hlisted
    | some v => exact (List.mem_filter.mp hlisted).1
  rw [List.mem_singleton.mp hmem]

/-- A lookup of a capability with a gate finds the old row below the gate, and the new one from it
on or without a version. -/
theorem descriptor_of_resolve_gated
    {old new : CapabilityEntry}
    (hrows : table.rows capability = [old, new])
    (hgate : old.minVersion < new.minVersion)
    (hresolve : table.resolve capability version = .ok found) :
    found = if version.any (· < new.minVersion) then old.descriptor else new.descriptor := by
  obtain ⟨known, hknown, rfl⟩ := resolve_eq_ok_iff.mp hresolve
  rw [hrows] at hknown
  have hnewest : CapabilityEntry.newest? [old, new] = some new := by
    simp [CapabilityEntry.newest?, hgate]
  cases version with
  | none =>
      rw [applicable, hnewest] at hknown
      cases hknown
      rfl
  | some v =>
      by_cases hbelow : v < new.minVersion
      · have hnotYet : ¬new.minVersion ≤ v := Version.lt_iff_not_le.mp hbelow
        by_cases hold : old.minVersion ≤ v
        · simp only [applicable, List.filter_cons, List.filter_nil, hold, hnotYet, decide_true,
            decide_false, if_true, Bool.false_eq_true, if_false] at hknown
          cases hknown
          simp [hbelow]
        · simp only [applicable, List.filter_cons, List.filter_nil, hold, hnotYet, decide_false,
            Bool.false_eq_true, if_false] at hknown
          cases hknown
      · have hreached : new.minVersion ≤ v :=
          Decidable.not_not.mp fun hle => hbelow (Version.lt_iff_not_le.mpr hle)
        have hlast : CapabilityEntry.newest? (applicable [old, new] (some v)) = some new := by
          by_cases hold : old.minVersion ≤ v
          · simpa [applicable, List.filter_cons, hold, hreached] using hnewest
          · simp [applicable, hold, hreached, CapabilityEntry.newest?]
        rw [hlast] at hknown
        cases hknown
        simp [hbelow]

end CapabilityTable

namespace Capability

variable {version : Option Version} {found : Json.Members}

/-- The version in which the field of the state was renamed. -/
def stateFieldGate : Version := ⟨6, 4, 0, Version.releaseBuild⟩

/-- The field that holds the state of a job in its persistent task record. -/
def stateFieldAt (version : Option Version) : String :=
  if version.any (· < stateFieldGate) then "status" else "state"

theorem rollupJobs_of_resolve
    (hresolve : standard.resolve rollupJobs version = .ok found) :
    found =
      [("job_path", .string "/_xpack/rollup/job"),
       ("task_actions", .string "xpack/rollup/*"),
       ("task_name", .string "xpack/rollup/job")] :=
  CapabilityTable.descriptor_of_resolve_single rfl hresolve

/-- The version in which the assistance with migrations came in. -/
def assistanceGate : Version := ⟨5, 6, 0, Version.releaseBuild⟩

/-- The version in which background jobs came in. -/
def rollupGate : Version := ⟨6, 3, 0, Version.releaseBuild⟩

theorem lt_of_rollupJobs_eq_error
    {failure : Failure}
    (hfailed : standard.resolve rollupJobs version = .error failure) :
    ∃ v, version = some v ∧ v < rollupGate :=
  CapabilityTable.lt_of_resolve_eq_error hfailed
    ⟨rollupJobs, rollupGate,
      [("job_path", .string "/_xpack/rollup/job"),
       ("task_actions", .string "xpack/rollup/*"),
       ("task_name", .string "xpack/rollup/job")]⟩ List.mem_cons_self

theorem rollupJobs_of_lt
    {v : Version}
    (hbelow : v < rollupGate) :
    standard.resolve rollupJobs (some v) = .error (.missing rollupJobs (some v)) :=
  CapabilityTable.resolve_of_lt (List.forall_mem_singleton.mpr hbelow)

/-- The state of a job's task record has a field as soon as there are background jobs. -/
theorem exists_taskStateField_of_rollupJobs
    (hresolve : standard.resolve rollupJobs version = .ok found) :
    ∃ field, standard.resolve taskStateField version = .ok field := by
  cases hfield : standard.resolve taskStateField version with
  | ok field => exact ⟨field, rfl⟩
  | error failure =>
      obtain ⟨v, rfl, hbelow⟩ := CapabilityTable.lt_of_resolve_eq_error hfield
        ⟨taskStateField, rollupGate, [("field", .string "status")]⟩ List.mem_cons_self
      cases hresolve.symm.trans (rollupJobs_of_lt hbelow)

theorem taskStateField_of_resolve
    (hresolve : standard.resolve taskStateField version = .ok found) :
    found = [("field", .string (stateFieldAt version))] := by
  have hfound := CapabilityTable.descriptor_of_resolve_gated rfl (by decide) hresolve
  change found = if version.any (· < stateFieldGate) then _ else _ at hfound
  rw [hfound, stateFieldAt]
  split
  · rfl
  · rfl

end Capability
end RestartCheck
