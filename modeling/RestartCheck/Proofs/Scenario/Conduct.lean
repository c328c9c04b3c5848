import RestartCheck.Health
import RestartCheck.Scenario.IncompatibleIndex
import RestartCheck.Scenario.SingleRecord
import RestartCheck.Proofs.Migration.Conduct

/-!
# The conduct of a half

Whatever a half reads off an answer fails with a failure that the service brings about.  Apart from
that, a half can only fail because a resource is not declared, or because a capability is not
available.  A half looks up none but the resources that its scenario declares, and few capabilities.

The conduct of the two scenarios without a capability follows: they send a few requests, and neither
polls.

**Results.**
* `HalfFails`: the failures of a half.
* `Health.conforms_await`: the wait for the health of the cluster.
* `SingleRecord.conforms_verify`, `IncompatibleIndex.conforms_verify`: the second halves.
-/

namespace RestartCheck

open RestartCheck.Action

/-- The failures of a half by itself: those that the service brings about, and those of the lookups
of declared resources, of the health query and of the capabilities that the half needs. -/
inductive HalfFails
    (ctx : ScenarioContext)
    (declared : List ResourceRef)
    (needed : List String)
    (failure : Failure) : Prop
  | service (hservice : failure.IsOfService)
  | resource
      (ref : ResourceRef)
      (hdeclared : ref ∈ declared)
      (hfailed : ctx.resource ref.name ref.kind = .error failure)
  | health
      (hfailed : ctx.harness.table.resolve Capability.healthWait (some ctx.config.oldVersion) =
        .error failure)
  | capability
      (capability : String)
      (hneeded : capability ∈ needed)
      (hfailed : ctx.serving capability = .error failure)

/-- A lookup of a resource fails because the resource is not declared. -/
theorem ScenarioContext.exists_continuity_of_resource
    {ctx : ScenarioContext} {name kind : String} {failure : Failure}
    (hfailed : ctx.resource name kind = .error failure) :
    ∃ message, failure = .continuity message := by
  unfold resource at hfailed
  simp only at hfailed
  split at hfailed
  · cases hfailed
  split at hfailed
  · exact ⟨_, (Except.error.inj hfailed).symm⟩
  · exact ⟨_, (Except.error.inj hfailed).symm⟩

namespace Action.Conduct

/-- The conduct allows the failures of a half. -/
def CoversHalf
    (conduct : Conduct)
    (ctx : ScenarioContext)
    (declared : List ResourceRef)
    (needed : List String) : Prop :=
  ∀ ⦃failure : Failure⦄, HalfFails ctx declared needed failure → conduct.Fails failure

/-- The conduct allows to read at any time. -/
def Reads (conduct : Conduct) : Prop :=
  ∀ ⦃front : List Exchange⦄ ⦃request : Request⦄,
    request.IsRead → conduct.permission.Allows front request

/-- The conduct allows to send anything at any time. -/
def Writes (conduct : Conduct) : Prop :=
  ∀ front request, conduct.permission.Allows front request

theorem Writes.reads
    {conduct : Conduct}
    (hwrite : conduct.Writes) :
    conduct.Reads :=
  fun _ _ _ => hwrite _ _

end Action.Conduct

section Halves

variable {conduct : Conduct} {ctx : ScenarioContext} {declared : List ResourceRef}
  {needed : List String}

theorem failsWithin_resource
    {name kind : String}
    (hfails : conduct.CoversHalf ctx declared needed)
    (hdeclared : ⟨name, kind⟩ ∈ declared) :
    FailsWithin conduct.Fails (ctx.resource name kind) :=
  fun _ hfailed => hfails (.resource ⟨name, kind⟩ hdeclared hfailed)

theorem failsWithin_serving
    {capability : String}
    (hfails : conduct.CoversHalf ctx declared needed)
    (hneeded : capability ∈ needed) :
    FailsWithin conduct.Fails (ctx.serving capability) :=
  fun _ hfailed => hfails (.capability capability hneeded hfailed)

theorem failsWithin_health
    (hfails : conduct.CoversHalf ctx declared needed) :
    FailsWithin conduct.Fails
      (ctx.harness.table.resolve Capability.healthWait (some ctx.config.oldVersion)) :=
  fun _ hfailed => hfails (.health hfailed)

theorem Health.conforms_await
    {table : CapabilityTable} {oldVersion : Version} {resources : Option String}
    {status timeout : String}
    (hhealth : FailsWithin conduct.Fails
      (table.resolve Capability.healthWait (some oldVersion)))
    (hread : conduct.Reads) :
    Conforms conduct (await table oldVersion resources status timeout) := by
  refine conforms_bind (conforms_liftM hhealth) fun waits => ?_
  refine conforms_bind (conforms_call (hread rfl)) fun response => ?_
  refine conforms_guard (conduct.ofService trivial) ?_
  refine conforms_bind (conforms_judging (failsWithin_object response)) fun body => ?_
  refine conforms_guard (conduct.ofService trivial) ?_
  exact conforms_bind (conforms_noteShowing _ _ _ _ _) fun _ => conforms_pure _

end Halves

/-! ## Scenarios without a capability -/

namespace SingleRecord

variable {conduct : Conduct} {ctx : ScenarioContext} {needed : List String}

theorem conforms_verify
    (hfails : conduct.CoversHalf ctx scenario.resources needed)
    (hread : conduct.Reads) :
    Conforms conduct (verify ctx) := by
  refine conforms_liftM_bind (failsWithin_resource hfails List.mem_cons_self) fun ref _ => ?_
  refine conforms_bind (conforms_call (hread rfl)) fun response => ?_
  refine conforms_bind (conforms_judging (failsWithin_requireOk _ _)) fun checked => ?_
  exact conforms_judging (failsWithin_check _ _)

theorem conforms_create
    (hfails : conduct.CoversHalf ctx scenario.resources needed)
    (hwrite : conduct.Writes) :
    Conforms conduct (scenario.preUpgrade ctx) := by
  refine conforms_bind ?_ fun _ => conforms_verify hfails hwrite.reads
  refine conforms_liftM_bind (failsWithin_resource hfails List.mem_cons_self) fun ref _ => ?_
  refine conforms_bind (conforms_call (hwrite _ _)) fun response => ?_
  exact conforms_bind (conforms_judging (failsWithin_requireOk _ _)) fun _ => conforms_note _ _ _

end SingleRecord

namespace IncompatibleIndex

variable {conduct : Conduct} {ctx : ScenarioContext} {table : CapabilityTable}
  {needed : List String}

/-- The query that must fail. -/
def queryRequest : Request :=
  { method := "POST", path := "/_xpack/sql"
    body := some (.object [("query", .string ("SELECT * FROM " ++ index))]) }

theorem conforms_verify
    (hfails : conduct.CoversHalf ctx (scenario table).resources needed)
    (hquery : conduct.permission.Allows [] queryRequest) :
    Conforms conduct (verify ctx) := by
  refine conforms_liftM_bind (failsWithin_resource hfails List.mem_cons_self) fun ref href => ?_
  obtain ⟨rfl, _⟩ := ScenarioContext.resource_eq_ok_iff.mp href
  refine conforms_bind (conforms_call hquery) fun response => ?_
  exact conforms_bind (conforms_judging (failsWithin_check _ _)) fun _ =>
    conforms_judging (failsWithin_check _ _)

theorem conforms_create
    (hfails : conduct.CoversHalf ctx (scenario table).resources needed)
    (hwrite : conduct.Writes) :
    Conforms conduct (create ctx) := by
  refine conforms_liftM_bind (failsWithin_resource hfails List.mem_cons_self) fun ref _ => ?_
  refine conforms_bind (conforms_forEach fun type _ => ?_) fun _ => conforms_pure _
  refine conforms_bind (conforms_call (hwrite _ _)) fun response => ?_
  exact conforms_bind (conforms_judging (failsWithin_requireOk _ _)) fun _ => conforms_pure _

end IncompatibleIndex
end RestartCheck
