import RestartCheck.Scenario.Catalog
import RestartCheck.Proofs.Job.Conduct
import RestartCheck.Proofs.SecurityStore.Conduct
import RestartCheck.Proofs.Watcher.Conduct

/-!
# The conduct of the built-in scenarios

A first half may write anything.  A second half that wrote to what the first half created could hide
the very loss that it is to find.  So nearly all that a second half sends are reads.  The requests
that are not are migrations of stores that an earlier detection has found required, commands to the
watcher, the query that must fail, and writes of resources that no first half creates.

Both halves keep the context bound for log entries, and fail by themselves only as the resources and
capabilities that they look up make them.

**Results.**
* `Catalog.Writes`: the requests of the second halves that are no reads.
* `Catalog.Writes.fresh`: the resources that are written are declared by no scenario.
* `Catalog.conforms_preUpgrade`, `Catalog.conforms_postUpgrade`: every half of every scenario.
* `Catalog.keepsContext_half`, `Catalog.raises_half`, `Catalog.permits_postUpgrade`: what follows.
-/

namespace RestartCheck

open RestartCheck.Action Trace

namespace Catalog

/-- What the second half of a scenario may write, given the exchanges before. -/
inductive Writes
    (harness : Harness)
    (config : RunConfig)
    (front : List Exchange) : String → Request → Prop
  /-- A store is migrated that an earlier detection has found required. -/
  | migration
      (name : String)
      (hname : name ∈ [SecurityStore.name, Watcher.name])
      (ref : ResourceRef)
      (answer : Except Failure Response)
      (hdetected : ⟨Migration.assistanceRequest harness.assistancePath, answer⟩ ∈ front)
      (hrequired : Migration.Classifies answer ref .required) :
      Writes harness config front name (Migration.upgradeRequest harness.upgradePath ref)
  | user
      (fullName : String) :
      Writes harness config front SecurityStore.name
        (SecurityStore.userRequest SecurityStore.postUser fullName)
  | role :
      Writes harness config front SecurityStore.name
        (SecurityStore.roleRequest SecurityStore.postRole)
  /-- The watcher is started or stopped. -/
  | command
      (service : Json.Members)
      (key path : String)
      (hservice :
        harness.table.resolve Capability.watcherService config.servingVersion = .ok service)
      (hkey : key ∈ ["start_path", "stop_path"])
      (hpath : service.textAt key = .ok path) :
      Writes harness config front Watcher.name (Watcher.commandRequest path)
  | watch
      (service : Json.Members)
      (path : String)
      (hservice :
        harness.table.resolve Capability.watcherService config.servingVersion = .ok service)
      (hpath : service.textAt "watch_path" = .ok path) :
      Writes harness config front Watcher.name (Watcher.storeRequest path)
  | query :
      Writes harness config front IncompatibleIndex.name IncompatibleIndex.queryRequest

variable {settings : ScenarioSettings} {table : CapabilityTable} {harness : Harness}
  {config : RunConfig} {name : String} {front : List Exchange} {request : Request}

/-- Only a migration relies on the exchanges before. -/
theorem Writes.mono
    {more : List Exchange}
    (hwrites : Writes harness config front name request)
    (hmore : front ⊆ more) :
    Writes harness config more name request := by
  cases hwrites with
  | migration name hname ref answer hdetected hrequired =>
      exact .migration name hname ref answer (hmore hdetected) hrequired
  | user fullName => exact .user fullName
  | role => exact .role
  | command service key path hservice hkey hpath =>
      exact .command service key path hservice hkey hpath
  | watch service path hservice hpath => exact .watch service path hservice hpath
  | query => exact .query

/-- The scenarios whose second halves write at all. -/
theorem Writes.name_mem
    (hwrites : Writes harness config front name request) :
    name ∈ [SecurityStore.name, Watcher.name, IncompatibleIndex.name] := by
  cases hwrites with
  | migration name hname =>
      exact List.mem_append_left [IncompatibleIndex.name] hname
  | _ => decide

/-- No first half creates the resource. -/
def IsFresh
    (settings : ScenarioSettings)
    (table : CapabilityTable)
    (ref : ResourceRef) : Prop :=
  ∀ entry ∈ all settings table, ref ∉ entry.2.resources

/-- The first halves create indices and jobs, one user, one role and some watches. -/
theorem isFresh_of_kind
    {ref : ResourceRef}
    (hkind : ref.kind ∉ ["index", "job"])
    (huser : ref ≠ ⟨SecurityStore.preUser, "user"⟩)
    (hrole : ref ≠ ⟨SecurityStore.preRole, "role"⟩)
    (hwatches : ref.name ∉ Watcher.watches.map Prod.fst) :
    IsFresh settings table ref := by
  have hother : ∀ name kind, kind ∈ ["index", "job"] → ref ≠ ⟨name, kind⟩ := by
    rintro name kind hmem rfl
    exact hkind hmem
  rintro ⟨wanted, scenario⟩ hentry hmem
  simp only [all, List.mem_cons, List.not_mem_nil, or_false, Prod.mk.injEq] at hentry
  rcases hentry with ⟨_, rfl⟩ | ⟨_, rfl⟩ | ⟨_, rfl⟩ | ⟨_, rfl⟩ | ⟨_, rfl⟩
  · exact hother _ _ (by decide) (List.mem_singleton.mp hmem)
  · simp only [SecurityStore.scenario, List.mem_cons, List.not_mem_nil, or_false] at hmem
    exact hmem.elim (hother _ _ (by decide)) fun hmem => hmem.elim huser hrole
  · simp only [Watcher.scenario, List.mem_append, List.mem_map, List.mem_singleton] at hmem
    rcases hmem with (⟨store, _, rfl⟩ | houtput) | ⟨watch, hwatch, rfl⟩
    · exact hother _ _ (by decide) rfl
    · exact hother _ _ (by decide) houtput
    · exact hwatches (List.mem_map_of_mem hwatch)
  · simp only [BackgroundJob.scenario, List.mem_cons, List.not_mem_nil, or_false] at hmem
    exact hmem.elim (hother _ _ (by decide)) (hother _ _ (by decide))
  · exact hother _ _ (by decide) (List.mem_singleton.mp hmem)

/-- What is put is put where no first half creates anything. -/
theorem Writes.fresh
    (hwrites : Writes harness config front name request)
    (hput : request.method = "PUT") :
    ∃ path ref, request.path = path ++ "/" ++ ref.name ∧ IsFresh settings table ref := by
  have hpost : "POST" ≠ "PUT" := by decide
  cases hwrites with
  | user fullName =>
      exact ⟨_, ⟨SecurityStore.postUser, "user"⟩, rfl,
        isFresh_of_kind (by decide) (by decide) (by decide) (by decide)⟩
  | role =>
      exact ⟨_, ⟨SecurityStore.postRole, "role"⟩, rfl,
        isFresh_of_kind (by decide) (by decide) (by decide) (by decide)⟩
  | watch service path hservice hpath =>
      exact ⟨_, ⟨Watcher.newWatch, "watch"⟩, rfl,
        isFresh_of_kind (by decide) (by decide) (by decide) (by decide)⟩
  | migration => exact absurd hput hpost
  | command => exact absurd hput hpost
  | query => exact absurd hput hpost

/-- The second half of a scenario reads, and writes what it may. -/
def permission
    (harness : Harness)
    (config : RunConfig)
    (name : String) : Permission where
  Allows front request := request.IsRead ∨ Writes harness config front name request
  mono := fun hmore hallows => hallows.imp_right fun hwrites => hwrites.mono hmore

/-! ## Every half -/

/-- The capabilities that the halves of a scenario look up. -/
def neededBy (name : String) : List String :=
  if name = BackgroundJob.name then BackgroundJob.needed
  else if name = Watcher.name then Watcher.needed
  else []

section Halves

variable {wanted : Bool} {scenario : Scenario} {conduct : Conduct} {ctx : ScenarioContext}

/-- What is built are some of the built-in scenarios. -/
theorem mem_all_of_mem_build
    {only : List String} {scenarios : List Scenario}
    (hbuild : build settings table only = .ok scenarios)
    (hmem : scenario ∈ scenarios) :
    ∃ wanted, (wanted, scenario) ∈ all settings table := by
  unfold build at hbuild
  simp only at hbuild
  split at hbuild
  · cases hbuild
    have henabled : scenario ∈ enabled settings table := by
      unfold select at hmem
      split at hmem
      · exact hmem
      · exact (List.mem_filter.mp hmem).1
    obtain ⟨⟨wanted, known⟩, hknown, hkept⟩ := List.mem_filterMap.mp henabled
    simp only at hkept
    split at hkept
    · cases hkept
      exact ⟨wanted, hknown⟩
    · cases hkept
  · cases hbuild

theorem conforms_preUpgrade
    (hmem : (wanted, scenario) ∈ all settings table)
    (hfails : conduct.CoversHalf ctx scenario.resources (neededBy scenario.name))
    (hwrite : conduct.Writes)
    (hrule : conduct.outage ≠ .endsAtOnce) :
    Conforms conduct (scenario.preUpgrade ctx) := by
  simp only [all, List.mem_cons, List.not_mem_nil, or_false, Prod.mk.injEq] at hmem
  rcases hmem with ⟨_, rfl⟩ | ⟨_, rfl⟩ | ⟨_, rfl⟩ | ⟨_, rfl⟩ | ⟨_, rfl⟩
  · exact SingleRecord.conforms_create hfails hwrite
  · exact SecurityStore.conforms_create hfails hwrite
  · exact Watcher.conforms_create hfails hwrite hrule
  · exact BackgroundJob.conforms_create hfails hwrite hrule
  · exact IncompatibleIndex.conforms_create hfails hwrite

/-- A second half reads, and writes what it may.  An outage can be hidden in the half of the watcher
scenario only. -/
theorem conforms_postUpgrade
    (hmem : (wanted, scenario) ∈ all settings table)
    (hfails : conduct.CoversHalf ctx scenario.resources (neededBy scenario.name))
    (hallows : ∀ front request,
      (permission ctx.harness ctx.config scenario.name).Allows front request →
        conduct.permission.Allows front request)
    (hrule : conduct.outage ≠ .endsAtOnce)
    (hfree : scenario = Watcher.scenario settings.watcher → conduct.outage = .free) :
    Conforms conduct (scenario.postUpgrade ctx) := by
  have hread : conduct.Reads := fun front request hread => hallows front request (Or.inl hread)
  simp only [all, List.mem_cons, List.not_mem_nil, or_false, Prod.mk.injEq] at hmem
  rcases hmem with ⟨_, rfl⟩ | ⟨_, rfl⟩ | ⟨_, rfl⟩ | ⟨_, rfl⟩ | ⟨_, rfl⟩
  · exact SingleRecord.conforms_verify hfails hread
  · refine SecurityStore.conforms_verify hfails hread (fun front fullName => ?_) ?_
      (fun answer store hrequired => ?_) hrule
    · exact hallows front _ (Or.inr (.user fullName))
    · exact hallows [] _ (Or.inr .role)
    · exact hallows _ _ (Or.inr (.migration _ List.mem_cons_self store answer List.mem_cons_self
        hrequired))
  · refine Watcher.conforms_verify hfails hread (fun answer store hrequired => ?_)
      (fun service key hkey path hservice hpath => ?_) (fun service path hservice hpath => ?_)
      (hfree rfl)
    · exact hallows _ _ (Or.inr (.migration _ (List.mem_cons_of_mem _ List.mem_cons_self) store
        answer List.mem_cons_self hrequired))
    · exact hallows [] _ (Or.inr (.command service key path hservice hkey hpath))
    · exact hallows [] _ (Or.inr (.watch service path hservice hpath))
  · exact BackgroundJob.conforms_verify hfails hread hrule
  · exact IncompatibleIndex.conforms_verify hfails (hallows [] _ (Or.inr .query))

/-- A half keeps to this conduct, whichever phase it is for. -/
def halfConduct
    (scenario : Scenario)
    (ctx : ScenarioContext)
    (permission : Permission) : Conduct where
  permission := permission
  Fails := HalfFails ctx scenario.resources (neededBy scenario.name)
  ofService := fun _ => .service
  outage := .free

theorem conforms_half
    (hmem : (wanted, scenario) ∈ all settings table)
    (phase : Phase)
    (ctx : ScenarioContext) :
    Conforms (halfConduct scenario ctx .all) (scenario.half phase ctx) := by
  cases phase with
  | preUpgrade =>
      exact conforms_preUpgrade hmem (fun _ hhalf => hhalf) (fun _ _ => trivial) nofun
  | postUpgrade =>
      exact conforms_postUpgrade hmem (fun _ hhalf => hhalf) (fun _ _ _ => trivial) nofun
        fun _ => rfl

theorem keepsContext_half
    (hmem : (wanted, scenario) ∈ all settings table)
    (phase : Phase)
    (ctx : ScenarioContext) :
    KeepsContext (scenario.half phase ctx) :=
  (conforms_half hmem phase ctx).keepsContext

theorem raises_half
    (hmem : (wanted, scenario) ∈ all settings table)
    (phase : Phase)
    (ctx : ScenarioContext) :
    Raises (HalfFails ctx scenario.resources (neededBy scenario.name))
      (scenario.half phase ctx) :=
  (conforms_half hmem phase ctx).raises

/-- The second half of a built-in scenario reads, and writes what it may. -/
theorem permits_postUpgrade
    (hmem : (wanted, scenario) ∈ all settings table)
    (ctx : ScenarioContext) :
    Permits (permission ctx.harness ctx.config scenario.name) (scenario.postUpgrade ctx) := by
  have hconforms :
      Conforms (halfConduct scenario ctx (permission ctx.harness ctx.config scenario.name))
        (scenario.postUpgrade ctx) :=
    conforms_postUpgrade hmem (fun _ hhalf => hhalf) (fun _ _ hallows => hallows) nofun fun _ => rfl
  exact hconforms.permits

end Halves

end Catalog
end RestartCheck
