import RestartCheck.Capability
import RestartCheck.Run.Config
import RestartCheck.Text.Slashes

/-!
# The harness

What all scenarios of a run share: the capability table, the endpoints of the migration assistance,
and how many attempts a poll is granted.

**Results.**
* `Harness.table_of_create`: a harness works with the table that it was made from.
-/

namespace RestartCheck

/-- What all scenarios of a run share. -/
structure Harness where
  table : CapabilityTable
  /-- The endpoint of the migration assistance as the table gives it, which need not be a text. -/
  assistance : Json
  upgradePath : String
  patience : Nat

namespace Harness

/-- The path under which the migration assistance is asked. -/
def assistancePath (harness : Harness) : String :=
  harness.assistance.display

/-- The endpoint that tells which resources need migration, unless the table names another. -/
def standardAssistancePath : String := "/_xpack/migration/assistance"

/-- The endpoint that migrates a resource, unless the table names another. -/
def standardUpgradePath : String := "/_xpack/migration/upgrade"

/-- The endpoint under a key, which must be a text. -/
def endpoint (paths : Json.Members) (key : String) : Except Failure String :=
  match OrderedMap.lookup paths key with
  | some (.string path) => .ok (Text.trimSlashes path)
  | some _ => .error (.defect .noSuchOperation)
  | none => .error (.defect (.missingKey key))

/-- A harness with the endpoints that a descriptor names. -/
def ofPaths (table : CapabilityTable) (patience : Nat) (paths : Json.Members) :
    Except Failure Harness := do
  let assistance ← paths.valueAt "assistance_path"
  let upgrade ← endpoint paths "upgrade_path"
  return ⟨table, assistance, upgrade, patience⟩

/-- A harness with the endpoints that are used where no descriptor names any. -/
def usual (table : CapabilityTable) (patience : Nat) : Harness :=
  ⟨table, .string standardAssistancePath, Text.trimSlashes standardUpgradePath, patience⟩

/-- The harness of a run: the endpoints are those that the serving version exposes. -/
def create (table : CapabilityTable) (config : RunConfig) (patience : Nat) :
    Except Failure Harness :=
  match table.supports Capability.migrationAssistance config.servingVersion with
  | .error failure => .error failure
  | .ok false => .ok (usual table patience)
  | .ok true => do
    ofPaths table patience
      (← table.resolve Capability.migrationAssistance config.servingVersion)

theorem table_of_ofPaths {table : CapabilityTable} {patience : Nat} {paths : Json.Members}
    {harness : Harness} (h : ofPaths table patience paths = .ok harness) :
    harness.table = table := by
  unfold ofPaths at h
  cases ha : paths.valueAt "assistance_path" with
  | error e => simp [ha, bind, Except.bind] at h
  | ok assistance =>
    cases hu : endpoint paths "upgrade_path" with
    | error e => simp [ha, hu, bind, Except.bind] at h
    | ok upgrade =>
      simp only [ha, hu, bind, Except.bind, pure, Except.pure, Except.ok.injEq] at h
      rw [← h]

/-- A harness looks up in the table that it was made from. -/
theorem table_of_create {table : CapabilityTable} {config : RunConfig} {patience : Nat}
    {harness : Harness} (h : create table config patience = .ok harness) :
    harness.table = table := by
  unfold create at h
  split at h
  · cases h
  · cases h; rfl
  · cases hp : table.resolve Capability.migrationAssistance config.servingVersion with
    | error e => simp [hp, bind, Except.bind] at h
    | ok paths => exact table_of_ofPaths (by simpa [hp, bind, Except.bind] using h)

end Harness

end RestartCheck
