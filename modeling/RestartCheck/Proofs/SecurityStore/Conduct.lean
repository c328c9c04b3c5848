import RestartCheck.Scenario.SecurityStore
import RestartCheck.Proofs.Migration.Triggering
import RestartCheck.Proofs.Scenario.Conduct

/-!
# The conduct of the security store scenario

The second half writes the new user and role, and migrates the store if its own detection has found
that required.  Everything else that it sends is a read.

**Results.**
* `conforms_bringUpToDate`: the store is migrated by the answer to the detection.
* `conforms_create`, `conforms_verify`: both halves.
-/

namespace RestartCheck
namespace SecurityStore

open RestartCheck.Action

def userRequest
    (user fullName : String) : Request :=
  { method := "PUT", path := userPath ++ "/" ++ user, body := some (userBody user fullName) }

def roleRequest (role : String) : Request :=
  { method := "PUT", path := rolePath ++ "/" ++ role, body := some roleBody }

theorem failsWithin_infoOf
    (kind principal : String)
    (body : Json.Members) :
    FailsWithin Failure.IsOfService (infoOf kind principal body) := by
  unfold infoOf
  split
  · exact failsWithin_ok _
  · exact failsWithin_error trivial

section Parts

variable {conduct : Conduct} {user role : String} {harness : Harness} {store : ResourceRef}
  {settings : SecurityStoreSettings}

theorem conforms_createUser
    (huser : ∀ fullName, conduct.permission.Allows [] (userRequest user fullName)) :
    Conforms conduct (createUser user) :=
  conforms_bind (conforms_query (by simp) (by simp)) fun fullName => conforms_call (huser fullName)

theorem conforms_verifyUser
    (hread : conduct.Reads) :
    Conforms conduct (verifyUser user) := by
  refine conforms_bind (conforms_call (hread rfl)) fun response => ?_
  refine conforms_bind (conforms_judging (failsWithin_requireOk _ _)) fun checked => ?_
  refine conforms_bind (conforms_judging (failsWithin_object checked)) fun body => ?_
  refine conforms_bind (conforms_judging (failsWithin_infoOf _ _ body)) fun info => ?_
  refine conforms_bind (conforms_judging (failsWithin_check _ _)) fun _ => ?_
  exact conforms_bind (conforms_judging (failsWithin_check _ _)) fun _ =>
    conforms_judging (failsWithin_check _ _)

theorem conforms_verifyRole
    (hread : conduct.Reads) :
    Conforms conduct (verifyRole role) := by
  refine conforms_bind (conforms_call (hread rfl)) fun response => ?_
  refine conforms_bind (conforms_judging (failsWithin_requireOk _ _)) fun checked => ?_
  refine conforms_bind (conforms_judging (failsWithin_object checked)) fun body => ?_
  refine conforms_bind (conforms_judging (failsWithin_infoOf _ _ body)) fun info => ?_
  exact conforms_each fun key _ => conforms_judging (failsWithin_check _ _)

theorem conforms_concreteStore
    {named : ResourceRef}
    (hread : conduct.Reads) :
    Conforms conduct (concreteStore named) := by
  refine conforms_bind (conforms_call (hread rfl)) fun response => ?_
  simp only
  split
  · refine conforms_bind (conforms_judging (failsWithin_object response)) fun settings => ?_
    cases settings with
    | nil => exact conforms_pure _
    | cons entry others => exact conforms_pure _
  · -- Without settings the name stays as it is.
    exact conforms_pure named

theorem conforms_migrateOutdated
    (huser : ∀ fullName, conduct.permission.Allows [] (userRequest postUser fullName))
    (hupgrade : conduct.permission.Allows [] (Migration.upgradeRequest harness.upgradePath store)) :
    Conforms conduct (migrateOutdated harness store) := by
  refine conforms_bind (conforms_createUser huser) fun response => ?_
  refine conforms_bind (conforms_judging (failsWithin_check _ _)) fun _ => ?_
  refine conforms_bind (conforms_judging (failsWithin_check _ _)) fun _ => ?_
  exact conforms_bind (Migration.conforms_migrate hupgrade) fun _ => conforms_note _ _ _

/-- The store is migrated only if the detection has found it required. -/
theorem conforms_bringUpToDate
    (hread : conduct.Reads)
    (huser : ∀ front fullName, conduct.permission.Allows front (userRequest postUser fullName))
    (hupgrade : ∀ answer, Migration.Classifies answer store .required →
      conduct.permission.Allows [⟨Migration.assistanceRequest harness.assistancePath, answer⟩]
        (Migration.upgradeRequest harness.upgradePath store))
    (hrule : conduct.outage ≠ .endsAtOnce) :
    Conforms conduct (bringUpToDate settings harness store) := by
  refine Migration.conforms_detect_bind (hread rfl) fun answer statuses hclassified => ?_
  have hwait : ∀ status : MigrationStatus,
      Conforms (conduct.after [⟨Migration.assistanceRequest harness.assistancePath, answer⟩]) (do
        if status.isPending then
          let _ ← Migration.awaitMigrated harness [store] settings.poll.interval
            settings.poll.timeout) := by
    intro status
    split
    · exact conforms_bind (Migration.conforms_awaitMigrated (hread rfl) hrule) fun _ =>
        conforms_pure _
    · exact conforms_pure _
  refine conforms_bind (conforms_note _ _ _) fun _ => ?_
  simp only
  split
  · next hstatus =>
      have hfound : OrderedMap.lookup statuses store = some .required := by
        cases hlookup : OrderedMap.lookup statuses store with
        | none =>
            rw [hlookup] at hstatus
            cases hstatus
        | some status =>
            rw [hlookup] at hstatus
            exact congrArg some hstatus
      have hrequired : Migration.Classifies answer store .required :=
        (hclassified store _ (OrderedMap.mem_of_lookup_eq_some hfound)).2
      refine conforms_bind (conforms_migrateOutdated (huser _) ?_) fun _ => hwait _
      exact hupgrade answer hrequired
  · exact hwait _

/-- The last stretch of the second half. -/
def renew (user role : String) : Action Unit := do
  let _ ← requireOk (← createUser postUser) ("creating user " ++ postUser)
  let _ ← requireOk (← createRole postRole) ("creating role " ++ postRole)
  verifyUser user
  verifyRole role
  verifyUser postUser
  verifyRole postRole

theorem conforms_renew
    (hread : conduct.Reads)
    (huser : ∀ fullName, conduct.permission.Allows [] (userRequest postUser fullName))
    (hrole : conduct.permission.Allows [] (roleRequest postRole)) :
    Conforms conduct (renew user role) := by
  refine conforms_bind (conforms_createUser huser) fun response => ?_
  refine conforms_bind (conforms_judging (failsWithin_requireOk _ _)) fun _ => ?_
  refine conforms_bind (conforms_call hrole) fun response => ?_
  refine conforms_bind (conforms_judging (failsWithin_requireOk _ _)) fun _ => ?_
  refine conforms_bind (conforms_verifyUser hread) fun _ => ?_
  refine conforms_bind (conforms_verifyRole hread) fun _ => ?_
  exact conforms_bind (conforms_verifyUser hread) fun _ => conforms_verifyRole hread

end Parts

/-! ## The halves -/

section Halves

variable {conduct : Conduct} {settings : SecurityStoreSettings} {ctx : ScenarioContext}
  {needed : List String}

theorem conforms_create
    (hfails : conduct.CoversHalf ctx (scenario settings).resources needed)
    (hwrite : conduct.Writes) :
    Conforms conduct (create ctx) := by
  refine conforms_liftM_bind (failsWithin_resource hfails (by simp [scenario])) fun user _ => ?_
  refine conforms_liftM_bind (failsWithin_resource hfails (by simp [scenario])) fun role _ => ?_
  refine conforms_bind (conforms_createUser fun _ => hwrite _ _) fun response => ?_
  refine conforms_bind (conforms_judging (failsWithin_requireOk _ _)) fun _ => ?_
  refine conforms_bind (conforms_call (hwrite _ _)) fun response => ?_
  refine conforms_bind (conforms_judging (failsWithin_requireOk _ _)) fun _ => ?_
  exact conforms_bind (conforms_verifyUser hwrite.reads) fun _ => conforms_verifyRole hwrite.reads

theorem conforms_verify
    (hfails : conduct.CoversHalf ctx (scenario settings).resources needed)
    (hread : conduct.Reads)
    (huser : ∀ front fullName, conduct.permission.Allows front (userRequest postUser fullName))
    (hrole : conduct.permission.Allows [] (roleRequest postRole))
    (hupgrade : ∀ answer store, Migration.Classifies answer store .required →
      conduct.permission.Allows [⟨Migration.assistanceRequest ctx.harness.assistancePath, answer⟩]
        (Migration.upgradeRequest ctx.harness.upgradePath store))
    (hrule : conduct.outage ≠ .endsAtOnce) :
    Conforms conduct (verify settings ctx) := by
  refine conforms_liftM_bind (failsWithin_resource hfails (by simp [scenario])) fun named _ => ?_
  refine conforms_liftM_bind (failsWithin_resource hfails (by simp [scenario])) fun user _ => ?_
  refine conforms_liftM_bind (failsWithin_resource hfails (by simp [scenario])) fun role _ => ?_
  refine conforms_bind (Health.conforms_await (failsWithin_health hfails) hread) fun _ => ?_
  refine conforms_bind (conforms_concreteStore hread) fun store => ?_
  refine conforms_bind ?_ fun _ => conforms_renew hread (huser []) hrole
  exact conforms_bringUpToDate hread huser (fun answer => hupgrade answer store) hrule

end Halves

end SecurityStore
end RestartCheck
