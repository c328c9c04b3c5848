import RestartCheck.Harness
import RestartCheck.Effect.Action

/-!
# Scenarios

A scenario verifies one thing across the restart.  It is a pair of halves, one per phase, that run
in separate processes and share nothing but the resources that the first half creates.  Both halves
find these in the list that the scenario declares.

**Results.**
* `ScenarioContext.resource_eq_ok_iff`: which resources a half may use.
-/

namespace RestartCheck

/-- What a scenario says about itself. -/
structure Declaration where
  name : String
  resources : List ResourceRef := []
  /-- The second half does not rely on resources of the first. -/
  upgradeIndependent : Bool := false
deriving Inhabited

/-- Everything that one half of a scenario may use. -/
structure ScenarioContext where
  config : RunConfig
  harness : Harness
  declared : Declaration

/-- One verification across the restart. -/
structure Scenario extends Declaration where
  preUpgrade : ScenarioContext → Action Unit
  postUpgrade : ScenarioContext → Action Unit
  /-- Judges the version that the cluster starts from. -/
  appliesTo : Version → Except Failure Bool := fun _ => .ok true
  /-- Skip instead of fail when a half needs a capability that the version lacks. -/
  skipOnUnsupported : Bool := true

namespace ScenarioContext

def resource (ctx : ScenarioContext) (name : String) (kind : String := "index") :
    Except Failure ResourceRef :=
  let ref : ResourceRef := ⟨name, kind⟩
  if ref ∈ ctx.declared.resources ∨ ctx.declared.upgradeIndependent then .ok ref
  else if ctx.config.isPreUpgrade then
    .error (.continuity ("scenario [" ++ ctx.declared.name ++ "] creates undeclared resource "
      ++ ref.text))
  else
    .error (.continuity ("scenario [" ++ ctx.declared.name ++ "] uses " ++ ref.text
      ++ " which no pre-upgrade half created"))

/-- The behaviour of a capability at the version that answers requests. -/
def serving (ctx : ScenarioContext) (capability : String) : Except Failure Json.Members :=
  ctx.harness.table.resolve capability ctx.config.servingVersion

/-- A resource is found by its name and kind when the scenario declares it, or when the upgrade does
not concern the scenario. -/
theorem resource_eq_ok_iff {ctx : ScenarioContext} {name kind : String} {ref : ResourceRef} :
    ctx.resource name kind = .ok ref ↔
      ref = ⟨name, kind⟩ ∧ (ref ∈ ctx.declared.resources ∨ ctx.declared.upgradeIndependent) := by
  unfold resource
  by_cases h : (⟨name, kind⟩ : ResourceRef) ∈ ctx.declared.resources ∨
      ctx.declared.upgradeIndependent = true
  · simp only [h, if_true, Except.ok.injEq]
    exact ⟨fun e => e ▸ ⟨rfl, h⟩, fun e => e.1.symm⟩
  · simp only [h, if_false]
    constructor
    · intro e; split at e <;> cases e
    · rintro ⟨rfl, h'⟩; exact absurd h' h

end ScenarioContext

namespace Scenario

/-- Applicable when the version has the capability. -/
def requires (table : CapabilityTable) (capability : String) (version : Version) :
    Except Failure Bool :=
  table.supports capability (some version)

/-- Applicable when the version does not have the capability yet. -/
def predates (table : CapabilityTable) (capability : String) (version : Version) :
    Except Failure Bool :=
  (table.supports capability (some version)).map (!·)

def half (scenario : Scenario) : Phase → ScenarioContext → Action Unit
  | .preUpgrade => scenario.preUpgrade
  | .postUpgrade => scenario.postUpgrade

end Scenario

/-- Fail with a message unless a condition holds. -/
def check (condition : Bool) (message : String) : Except Failure Unit :=
  if condition then .ok () else .error (.assertion message)

/-- Fail unless the answer to an attempt reports success. -/
def requireOk (response : Response) (attempted : String) : Except Failure Response :=
  if response.ok then .ok response
  else
    .error (.assertion (attempted ++ " failed with status " ++ toString response.status ++ ": "
      ++ response.body))

/-- A check passes exactly when its condition holds. -/
@[simp] theorem check_eq_ok_iff {condition : Bool} {message : String} :
    check condition message = .ok () ↔ condition = true := by
  cases condition <;> simp [check]

/-- A response is handed on exactly when its request succeeded. -/
theorem requireOk_eq_ok_iff {response result : Response} {attempted : String} :
    requireOk response attempted = .ok result ↔ response.ok = true ∧ result = response := by
  unfold requireOk
  by_cases h : response.ok = true
  · simp [h, eq_comm]
  · simp [h]

end RestartCheck
