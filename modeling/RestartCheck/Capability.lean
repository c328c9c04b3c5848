import RestartCheck.Failure

/-!
# Capabilities by version

Every question of the form "does the service at this version already do X" is answered by one table.
Its rows say that a capability has a certain behaviour from a minimum version on; the behaviour in
force at a version is that of the row with the greatest minimum not above it.

**Input.**  A finite list of entries without two of the same capability and minimum version.

**Results.**
* `newest?_eq_none_iff`: a list of entries has a newest one unless it is empty.
* `mem_of_newest?_eq_some`: the newest entry is one of the list.
-/

namespace RestartCheck

/-- One row of the capability table. -/
structure CapabilityEntry where
  capability : String
  minVersion : Version
  descriptor : Json.Members := []
deriving Inhabited

namespace CapabilityEntry

/-- Two entries describe the same capability from the same version on. -/
def Clashes (a b : CapabilityEntry) : Prop :=
  a.capability = b.capability ∧ a.minVersion = b.minVersion

instance (a b : CapabilityEntry) : Decidable (a.Clashes b) :=
  inferInstanceAs (Decidable (_ ∧ _))

/-- The entry with the greatest minimum version. -/
def newest? : List CapabilityEntry → Option CapabilityEntry
  | [] => none
  | entry :: rest =>
    match newest? rest with
    | none => some entry
    | some other => if entry.minVersion < other.minVersion then some other else some entry

/-- Only an empty table has no newest entry. -/
theorem newest?_eq_none_iff {entries : List CapabilityEntry} :
    newest? entries = none ↔ entries = [] := by
  cases entries with
  | nil => simp [newest?]
  | cons entry rest =>
    simp only [newest?, reduceCtorEq, iff_false]
    cases newest? rest with
    | none => simp
    | some other => by_cases h : entry.minVersion < other.minVersion <;> simp [h]

/-- The newest entry is one of the table. -/
theorem mem_of_newest?_eq_some {entries : List CapabilityEntry} {entry : CapabilityEntry}
    (h : newest? entries = some entry) : entry ∈ entries := by
  induction entries with
  | nil => cases h
  | cons first rest ih =>
    simp only [newest?] at h
    cases hrest : newest? rest with
    | none => simp [hrest] at h; simp [h]
    | some other =>
      rw [hrest] at h
      by_cases hlt : first.minVersion < other.minVersion
      · simp only [hlt, if_true, Option.some.injEq] at h
        exact List.mem_cons_of_mem _ (ih (h ▸ hrest))
      · simp only [hlt, if_false, Option.some.injEq] at h
        simp [h]

end CapabilityEntry

structure CapabilityTable where
  entries : List CapabilityEntry
  distinct : entries.Pairwise fun a b => ¬a.Clashes b

namespace CapabilityTable

def firstClash? (earlier : List CapabilityEntry) : List CapabilityEntry → Option CapabilityEntry
  | [] => none
  | entry :: rest =>
    if earlier.any (fun other => decide (other.Clashes entry)) then some entry
    else firstClash? (entry :: earlier) rest

/-- The failure for an entry whose capability and version another entry has.  It tells both. -/
def duplicate (entry : CapabilityEntry) : Failure :=
  match entry.minVersion.text? with
  | some version =>
    .defect (.badValue ("duplicate entry for [" ++ entry.capability ++ "] at " ++ version))
  | none => .unwritten

/-- A table of the given entries, which may come in any order. -/
def ofEntries (entries : List CapabilityEntry) : Except Failure CapabilityTable :=
  if h : entries.Pairwise fun a b => ¬a.Clashes b then .ok ⟨entries, h⟩
  else .error (duplicate ((firstClash? [] entries).getD default))

/-- The row in force at a version.  Without a version the newest row is meant, which describes a
service of unspecified but recent version. -/
def entry (table : CapabilityTable) (capability : String) (version : Option Version) :
    Except Failure CapabilityEntry :=
  let rows := table.entries.filter fun row => row.capability == capability
  let applicable :=
    match version with
    | none => rows
    | some v => rows.filter fun row => decide (row.minVersion ≤ v)
  match CapabilityEntry.newest? applicable with
  | some row => .ok row
  | none => .error (.missing capability version)

/-- The behaviour in force at a version. -/
def resolve (table : CapabilityTable) (capability : String) (version : Option Version) :
    Except Failure Json.Members :=
  (table.entry capability version).map CapabilityEntry.descriptor

/-- There is a row in force.  That there is none is only known when the failure says so. -/
def supports (table : CapabilityTable) (capability : String) (version : Option Version) :
    Except Failure Bool :=
  match table.entry capability version with
  | .ok _ => .ok true
  | .error (.unsupported _ _ _) => .ok false
  | .error failure => .error failure

end CapabilityTable

/-- The value under a key of a descriptor. -/
def Json.Members.valueAt (descriptor : Json.Members) (key : String) : Except Failure Json :=
  match descriptor.lookup key with
  | some value => .ok value
  | none => .error (.defect (.missingKey key))

/-- The value under a key of a descriptor, as it stands in running text. -/
def Json.Members.textAt (descriptor : Json.Members) (key : String) : Except Failure String :=
  (descriptor.valueAt key).map Json.display

namespace Capability

/-- Field that holds the state of a job in its persistent task record. -/
def taskStateField : String := "persistent_task.state_field"

/-- Parameters with which a health query waits for pending work. -/
def healthWait : String := "cluster_health.wait_params"

def migrationAssistance : String := "migration.assistance"

def rollupJobs : String := "rollup.jobs"

/-- Indices are limited to one mapping type. -/
def singleType : String := "index.single_type"

def watcherService : String := "watcher.service"

/-- The built-in rows.  The state field of a job's task record was renamed in 6.4.0. -/
def standardEntries : List CapabilityEntry :=
  [⟨taskStateField, ⟨6, 3, 0, 99⟩, [("field", .string "status")]⟩,
   ⟨taskStateField, ⟨6, 4, 0, 99⟩, [("field", .string "state")]⟩,
   ⟨healthWait, ⟨5, 0, 0, 99⟩, [("wait_for_no_relocating_shards", .string "true")]⟩,
   ⟨healthWait, ⟨6, 2, 0, 99⟩,
    [("wait_for_no_relocating_shards", .string "true"),
     ("wait_for_no_initializing_shards", .string "true")]⟩,
   ⟨migrationAssistance, ⟨5, 6, 0, 99⟩,
    [("assistance_path", .string "/_xpack/migration/assistance"),
     ("upgrade_path", .string "/_xpack/migration/upgrade")]⟩,
   ⟨rollupJobs, ⟨6, 3, 0, 99⟩,
    [("job_path", .string "/_xpack/rollup/job"),
     ("task_actions", .string "xpack/rollup/*"),
     ("task_name", .string "xpack/rollup/job")]⟩,
   ⟨singleType, ⟨6, 0, 0, 99⟩, [("max_types", .int 1)]⟩,
   ⟨watcherService, ⟨5, 0, 0, 99⟩,
    [("watch_path", .string "/_xpack/watcher/watch"),
     ("stats_path", .string "/_xpack/watcher/stats"),
     ("start_path", .string "/_xpack/watcher/_start"),
     ("stop_path", .string "/_xpack/watcher/_stop")]⟩]

def standard : CapabilityTable :=
  ⟨standardEntries, by decide⟩

end Capability

end RestartCheck
