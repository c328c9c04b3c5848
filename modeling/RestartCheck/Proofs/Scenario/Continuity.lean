import RestartCheck.Proofs.Capability.Lookup
import RestartCheck.Proofs.Scenario.Writes
import RestartCheck.Proofs.SecurityStore.Protocol

/-!
# Resources carry over

A half fails when it looks up a resource that its scenario does not declare.  The look-ups of the
built-in scenarios stand in other places than the declarations, some of them behind particular
answers, and some of the names come from the settings.

**Algorithm.**  Two contexts that answer the look-ups of the declared resources alike make the same
half, whatever they say about other resources.  So a half looks up declared resources only.  In the
context of its scenario these are granted, and all other failures of a half are of another kind.

**Results.**
* `half_eq_of_agreesOn`: a half depends on what is declared through the look-ups of the resources of
  its scenario only.
* `Catalog.resources_carry_over`: no half of a built-in scenario fails for want of a declaration.
-/

namespace RestartCheck

open RestartCheck.Action Trace

/-! ## Look-ups -/

/-- The failure is the look-up of a resource that is not declared. -/
def Failure.IsContinuity (failure : Failure) : Prop :=
  ∃ message, failure = .continuity message

theorem Failure.IsOfService.not_isContinuity
    {failure : Failure}
    (hservice : failure.IsOfService) :
    ¬failure.IsContinuity := by
  rintro ⟨message, rfl⟩
  exact hservice

theorem CapabilityTable.not_isContinuity_of_resolve
    {table : CapabilityTable} {capability : String} {version : Option Version} {failure : Failure}
    (hfailed : table.resolve capability version = .error failure) :
    ¬failure.IsContinuity := by
  rintro ⟨message, rfl⟩
  cases tellsMissing_of_resolve hfailed

/-- A half without an undeclared look-up only fails in other ways. -/
theorem HalfFails.not_isContinuity
    {ctx : ScenarioContext} {declared : List ResourceRef} {needed : List String}
    {failure : Failure}
    (hfails : HalfFails ctx declared needed failure)
    (hgranted : declared ⊆ ctx.declared.resources) :
    ¬failure.IsContinuity := by
  cases hfails with
  | service hservice => exact hservice.not_isContinuity
  | resource ref hdeclared hfailed =>
      have hfound : ctx.resource ref.name ref.kind = .ok ref :=
        ScenarioContext.resource_eq_ok_iff.mpr ⟨rfl, Or.inl (hgranted hdeclared)⟩
      cases hfound.symm.trans hfailed
  | health hfailed => exact CapabilityTable.not_isContinuity_of_resolve hfailed
  | capability capability hneeded hfailed =>
      exact CapabilityTable.not_isContinuity_of_resolve hfailed

namespace ScenarioContext

/-- The contexts belong to one run, and answer the look-ups of the given resources alike. -/
structure AgreesOn
    (resources : List ResourceRef)
    (ctx other : ScenarioContext) : Prop where
  config : ctx.config = other.config
  harness : ctx.harness = other.harness
  resource : ∀ ref ∈ resources,
    ctx.resource ref.name ref.kind = other.resource ref.name ref.kind

section Agreement

variable {resources : List ResourceRef} {ctx other : ScenarioContext}

theorem AgreesOn.lookup
    {name kind : String}
    (hagrees : AgreesOn resources ctx other)
    (hmem : ⟨name, kind⟩ ∈ resources) :
    ctx.resource name kind = other.resource name kind :=
  hagrees.resource ⟨name, kind⟩ hmem

theorem AgreesOn.serving
    (hagrees : AgreesOn resources ctx other)
    (capability : String) :
    ctx.serving capability = other.serving capability := by
  unfold ScenarioContext.serving
  rw [hagrees.config, hagrees.harness]

end Agreement

end ScenarioContext

namespace Action

variable {α β : Type}

theorem each_congr
    {items : List α} {action other : α → Action Unit}
    (hsame : ∀ item ∈ items, action item = other item) :
    each items action = each items other := by
  induction items with
  | nil => rfl
  | cons item rest ih =>
      rw [List.forall_mem_cons] at hsame
      unfold each
      rw [hsame.1, ih hsame.2]

theorem forEach_congr
    {items : List α} {action other : α → Action β}
    (hsame : ∀ item ∈ items, action item = other item) :
    forEach items action = forEach items other := by
  induction items with
  | nil => rfl
  | cons item rest ih =>
      rw [List.forall_mem_cons] at hsame
      unfold forEach
      rw [hsame.1, ih hsame.2]

end Action

/-! ## The halves -/

section Halves

variable {ctx other : ScenarioContext}

theorem SingleRecord.half_eq_of_agreesOn
    (phase : Phase)
    (hagrees : ctx.AgreesOn scenario.resources other) :
    scenario.half phase ctx = scenario.half phase other := by
  have hindex : ctx.resource index = other.resource index :=
    hagrees.lookup List.mem_cons_self
  have hverify : verify ctx = verify other := by
    unfold verify
    rw [hindex]
  cases phase with
  | preUpgrade =>
      change (do store ctx; verify ctx) = (do store other; verify other)
      rw [hverify]
      unfold store
      rw [hindex]
  | postUpgrade => exact hverify

theorem IncompatibleIndex.half_eq_of_agreesOn
    (table : CapabilityTable)
    (phase : Phase)
    (hagrees : ctx.AgreesOn (scenario table).resources other) :
    (scenario table).half phase ctx = (scenario table).half phase other := by
  have hindex : ctx.resource index = other.resource index :=
    hagrees.lookup List.mem_cons_self
  cases phase with
  | preUpgrade =>
      change create ctx = create other
      unfold create
      rw [hindex]
  | postUpgrade =>
      change verify ctx = verify other
      unfold verify
      rw [hindex]

theorem SecurityStore.half_eq_of_agreesOn
    (settings : SecurityStoreSettings)
    (phase : Phase)
    (hagrees : ctx.AgreesOn (scenario settings).resources other) :
    (scenario settings).half phase ctx = (scenario settings).half phase other := by
  have hnamed : ctx.resource settings.storeName = other.resource settings.storeName :=
    hagrees.lookup List.mem_cons_self
  have huser : ctx.resource preUser "user" = other.resource preUser "user" :=
    hagrees.lookup (List.mem_cons_of_mem _ List.mem_cons_self)
  have hrole : ctx.resource preRole "role" = other.resource preRole "role" :=
    hagrees.lookup (List.mem_cons_of_mem _ (List.mem_cons_of_mem _ List.mem_cons_self))
  cases phase with
  | preUpgrade =>
      change create ctx = create other
      unfold create
      rw [huser, hrole]
  | postUpgrade =>
      change verify settings ctx = verify settings other
      unfold verify
      rw [hnamed, huser, hrole, hagrees.config, hagrees.harness]

namespace BackgroundJob

theorem awaitRunning_eq_of_agreesOn
    {settings : JobSettings} {table : CapabilityTable}
    (hagrees : ctx.AgreesOn (scenario settings table).resources other) :
    awaitRunning settings ctx = awaitRunning settings other := by
  have hobserve : observe ctx = observe other := by
    funext jobId accepted
    unfold observe
    rw [hagrees.serving Capability.rollupJobs, hagrees.serving Capability.taskStateField]
  unfold awaitRunning
  rw [hagrees.lookup List.mem_cons_self, hagrees.harness, hobserve]

theorem half_eq_of_agreesOn
    (settings : JobSettings)
    (table : CapabilityTable)
    (phase : Phase)
    (hagrees : ctx.AgreesOn (scenario settings table).resources other) :
    (scenario settings table).half phase ctx = (scenario settings table).half phase other := by
  have hjob : ctx.resource settings.jobId "job" = other.resource settings.jobId "job" :=
    hagrees.lookup List.mem_cons_self
  have hsource : ctx.resource sourceIndex = other.resource sourceIndex :=
    hagrees.lookup (List.mem_cons_of_mem _ List.mem_cons_self)
  cases phase with
  | preUpgrade =>
      change create settings ctx = create settings other
      unfold create
      rw [hjob, hsource, hagrees.serving, awaitRunning_eq_of_agreesOn hagrees]
  | postUpgrade =>
      change verify settings ctx = verify settings other
      unfold verify
      rw [hagrees.config, hagrees.harness, awaitRunning_eq_of_agreesOn hagrees]

end BackgroundJob

namespace Watcher

variable {settings : WatcherSettings}

section Parts

variable (hagrees : ctx.AgreesOn (scenario settings).resources other)

include hagrees

theorem lookup_watch
    {watch : String}
    (hmem : watch ∈ watches.map Prod.fst) :
    ctx.resource watch "watch" = other.resource watch "watch" :=
  hagrees.lookup (mem_resources_of_mem_watches settings hmem)

theorem awaitHits_eq_of_agreesOn :
    awaitHits settings ctx = awaitHits settings other := by
  funext index
  unfold awaitHits
  rw [hagrees.harness]

theorem awaitState_eq_of_agreesOn :
    awaitState settings ctx = awaitState settings other := by
  funext expected
  unfold awaitState
  rw [hagrees.serving, hagrees.harness]

theorem checkStored_eq_of_agreesOn :
    checkStored settings ctx = checkStored settings other := by
  funext watchPath
  unfold checkStored
  rw [lookup_watch hagrees (by decide : reportWatchName ∈ watches.map Prod.fst),
    awaitHits_eq_of_agreesOn hagrees]
  congr 1
  refine each_congr fun stored hmem => ?_
  simp only
  rw [lookup_watch hagrees (mem_watches_of_mem_storedFields hmem)]

theorem checkAndStop_eq_of_agreesOn :
    checkAndStop settings ctx = checkAndStop settings other := by
  have hstop : stop settings ctx = stop settings other := by
    funext service
    unfold stop
    rw [awaitState_eq_of_agreesOn hagrees]
  funext service
  unfold checkAndStop checkRunning
  rw [checkStored_eq_of_agreesOn hagrees, hstop]

theorem migrateStores_eq_of_agreesOn :
    migrateStores settings ctx = migrateStores settings other := by
  have hstores : (forEach stores fun store => Action.ofExcept (ctx.resource store)) =
      forEach stores fun store => Action.ofExcept (other.resource store) := by
    refine forEach_congr fun store hmem => ?_
    rw [hagrees.lookup]
    exact List.mem_append_left _ (List.mem_append_left _ (List.mem_map_of_mem hmem))
  unfold migrateStores
  rw [hstores, hagrees.harness]

theorem create_eq_of_agreesOn :
    create settings ctx = create settings other := by
  have houtput : ctx.resource outputIndex = other.resource outputIndex :=
    hagrees.lookup (List.mem_append_left _ (List.mem_append_right _ List.mem_cons_self))
  unfold create
  rw [hagrees.serving, houtput, awaitHits_eq_of_agreesOn hagrees, hagrees.config, hagrees.harness]
  congr 1
  funext service
  congr 1
  refine each_congr fun entry hmem => ?_
  simp only
  rw [lookup_watch hagrees (List.mem_map_of_mem hmem)]

end Parts

theorem half_eq_of_agreesOn
    (settings : WatcherSettings)
    (phase : Phase)
    (hagrees : ctx.AgreesOn (scenario settings).resources other) :
    (scenario settings).half phase ctx = (scenario settings).half phase other := by
  cases phase with
  | preUpgrade => exact create_eq_of_agreesOn hagrees
  | postUpgrade =>
      change verify settings ctx = verify settings other
      unfold verify startWatcher
      rw [hagrees.serving, migrateStores_eq_of_agreesOn hagrees,
        awaitState_eq_of_agreesOn hagrees, checkAndStop_eq_of_agreesOn hagrees, hagrees.config,
        hagrees.harness]

end Watcher

end Halves

namespace Catalog

theorem half_eq_of_agreesOn
    {settings : ScenarioSettings} {table : CapabilityTable} {wanted : Bool} {scenario : Scenario}
    {ctx other : ScenarioContext}
    (hmem : (wanted, scenario) ∈ all settings table)
    (phase : Phase)
    (hagrees : ctx.AgreesOn scenario.resources other) :
    scenario.half phase ctx = scenario.half phase other := by
  simp only [all, List.mem_cons, List.not_mem_nil, or_false, Prod.mk.injEq] at hmem
  rcases hmem with ⟨_, rfl⟩ | ⟨_, rfl⟩ | ⟨_, rfl⟩ | ⟨_, rfl⟩ | ⟨_, rfl⟩
  · exact SingleRecord.half_eq_of_agreesOn phase hagrees
  · exact SecurityStore.half_eq_of_agreesOn settings.securityStore phase hagrees
  · exact Watcher.half_eq_of_agreesOn settings.watcher phase hagrees
  · exact BackgroundJob.half_eq_of_agreesOn settings.job table phase hagrees
  · exact IncompatibleIndex.half_eq_of_agreesOn table phase hagrees

/-- **Resources carry over.**  As long as requests are answered or do not reach the service, no half
of a built-in scenario fails because it uses a resource that its scenario does not declare.  And
what a half does depends on the declaration only through the look-ups of the declared resources, by
name and kind: it would be the same if every other resource were granted, or refused. -/
theorem resources_carry_over
    (settings : ScenarioSettings)
    (table : CapabilityTable)
    (only : List String)
    (scenarios : List Scenario)
    (scenario : Scenario)
    (phase : Phase)
    (hbuild : build settings table only = .ok scenarios)
    (hmem : scenario ∈ scenarios) :
    (∀ (config : RunConfig) (harness : Harness) (before after : Session) (events : List Event)
      (result : Except Failure Unit),
      (scenario.half phase ⟨config, harness, scenario.toDeclaration⟩).Runs before events result
        after →
      (∀ exchange ∈ exchanges events, ∀ failure,
        exchange.answer = .error failure → ∃ message, failure = .unreachable message) →
      ∀ message, result ≠ .error (.continuity message)) ∧
    (∀ ctx other : ScenarioContext,
      ctx.AgreesOn scenario.resources other →
        scenario.half phase ctx = scenario.half phase other) := by
  obtain ⟨wanted, hknown⟩ := mem_all_of_mem_build hbuild hmem
  refine ⟨?_, fun ctx other hagrees => half_eq_of_agreesOn hknown phase hagrees⟩
  rintro config harness before after events _ hrun hanswered message rfl
  rcases raises_half hknown phase _ hrun with hfails | hcame
  · exact hfails.not_isContinuity (List.Subset.refl _) ⟨message, rfl⟩
  · obtain ⟨exchange, hexchange, hanswer⟩ := hcame
    obtain ⟨_, hunreachable⟩ := hanswered exchange hexchange _ hanswer
    cases hunreachable

/-- A service that has lost the role created after the upgrade, once everything else is done. -/
def forgetful : Rehearsal :=
  { SecurityStore.outdated with routes := SecurityStore.outdated.routes.dropLast }

/-- The context of the security store scenario, but with every resource granted. -/
def unrestrictedContext : ScenarioContext :=
  { SecurityStore.standardContext with
    declared := { SecurityStore.standardContext.declared with upgradeIndependent := true } }

theorem carries_over_in_forgetful :
    ∃ scenarios events failure after,
      build {} Capability.standard [SecurityStore.name] = .ok scenarios ∧
      SecurityStore.scenario {} ∈ scenarios ∧
      ((SecurityStore.scenario {}).half .postUpgrade SecurityStore.standardContext).Runs {} events
        (.error failure) after ∧
      failure.kindName = "ScenarioAssertionError" ∧
      ¬failure.IsContinuity ∧
      (SecurityStore.scenario {}).half .postUpgrade SecurityStore.standardContext =
        (SecurityStore.scenario {}).half .postUpgrade unrestrictedContext := by
  have hbuild : build {} Capability.standard [SecurityStore.name] =
      .ok [SecurityStore.scenario {}] := rfl
  obtain ⟨events, outcome, after, hattempt, htest⟩ :=
    exists_runs_of_succeedsWith forgetful {}
      (attempt ((SecurityStore.scenario {}).half .postUpgrade SecurityStore.standardContext))
      (fun events outcome =>
        ((exchanges events).all fun exchange => exchange.answer.isOk) &&
          (failure? outcome).any (·.kindName == "ScenarioAssertionError"))
      rfl (by decide +kernel)
  obtain ⟨_, hsame, hrun⟩ := runs_attempt_iff.mp hattempt
  cases hsame
  rw [Bool.and_eq_true, List.all_eq_true, Option.any_eq_true] at htest
  obtain ⟨hanswered, failure, hfailed, hkind⟩ := htest
  obtain rfl := failure?_eq_some_iff.mp hfailed
  obtain ⟨hnever, hagreed⟩ :=
    resources_carry_over {} Capability.standard [SecurityStore.name] _ (SecurityStore.scenario {})
      .postUpgrade hbuild List.mem_cons_self
  have hkept := hnever _ _ {} after events _ hrun fun exchange hmem known hknown => by
    have hok := hanswered exchange hmem
    rw [hknown] at hok
    cases hok
  refine ⟨_, events, failure, after, hbuild, List.mem_cons_self, hrun, by simpa using hkind, ?_, ?_⟩
  · rintro ⟨message, rfl⟩
    exact hkept message rfl
  · refine hagreed _ _ ⟨rfl, rfl, fun ref hmem => ?_⟩
    rw [ScenarioContext.resource_eq_ok_iff.mpr ⟨rfl, Or.inl hmem⟩,
      ScenarioContext.resource_eq_ok_iff.mpr ⟨rfl, Or.inr rfl⟩]

end Catalog
end RestartCheck
