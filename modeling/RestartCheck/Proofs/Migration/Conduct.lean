import RestartCheck.Migration.Cycle
import RestartCheck.Proofs.Poll.Conduct
import RestartCheck.Proofs.Service.Judging

/-!
# The conduct of the migration cycle

A detection asks which resources need migration, and a command migrates one of them.  Both judge the
answers of the service and nothing else.  Only the wait is a poll.

**Results.**
* `conforms_detect`, `conforms_migrate`: one detection, and one command.
* `conforms_triggerRequired`: the commands for all resources that need one.
* `conforms_awaitMigrated`: the wait.
-/

namespace RestartCheck
namespace Migration

open RestartCheck.Action

def assistanceRequest (path : String) : Request :=
  { method := "GET", path := path }

def upgradeRequest
    (path : String)
    (ref : ResourceRef) : Request :=
  { method := "POST", path := path ++ "/" ++ ref.name
    params := some [("error_trace", .string "true")] }

/-! ## Judging answers -/

theorem failsWithin_reportedIn
    (response : Response) :
    FailsWithin Failure.IsOfService (reportedIn response) := by
  unfold reportedIn
  split
  · exact failsWithin_error trivial
  split
  · exact failsWithin_error trivial
  refine failsWithin_bind (failsWithin_object response) fun body => ?_
  unfold reportedOf
  split
  · exact failsWithin_ok _
  · exact failsWithin_error trivial

theorem failsWithin_classify
    (ref : ResourceRef)
    (entry : Option Json) :
    FailsWithin Failure.IsOfService (classify ref entry) := by
  unfold classify
  split
  · exact failsWithin_ok _
  · exact failsWithin_ok _
  · split
    · exact failsWithin_error trivial
    · simp only
      split
      · exact failsWithin_ok _
      · exact failsWithin_error trivial
  · exact failsWithin_error trivial

theorem failsWithin_workCount
    (ref : ResourceRef)
    (response : Response) :
    FailsWithin Failure.IsOfService (workCount ref response) := by
  unfold workCount
  simp only
  split
  · exact failsWithin_error trivial
  split
  · exact failsWithin_error trivial
  · next failure _ hobject => exact failsWithin_error (failsWithin_object response failure hobject)
  split
  · exact failsWithin_error trivial
  split
  · exact failsWithin_error trivial
  · exact failsWithin_ok _

/-! ## The parts of the cycle -/

section Parts

variable {conduct : Conduct} {path : String}

theorem conforms_advance
    (ref : ResourceRef)
    (status : MigrationStatus) :
    Conforms conduct (advance ref status) := by
  have hremember : Conforms conduct (modify fun session =>
      { session with statuses := OrderedMap.put session.statuses ref status } : Action Unit) :=
    conforms_modify fun _ => rfl
  refine conforms_get_bind fun session => ?_
  cases OrderedMap.lookup session.statuses ref with
  | none => exact conforms_bind (conforms_pure ()) fun _ => hremember
  | some previous => exact conforms_guard (conduct.ofService trivial) hremember

theorem conforms_classifyAll
    (reported : Json.Members)
    (done : OrderedMap ResourceRef MigrationStatus)
    (refs : List ResourceRef) :
    Conforms conduct (classifyAll reported done refs) := by
  induction refs generalizing done with
  | nil => exact conforms_pure _
  | cons ref rest ih =>
      refine conforms_bind (conforms_judging (failsWithin_classify _ _)) fun status => ?_
      exact conforms_bind (conforms_advance _ _) fun _ => ih _

theorem conforms_detect
    {refs : List ResourceRef}
    (hassistance : conduct.permission.Allows [] (assistanceRequest path)) :
    Conforms conduct (detect path refs) := by
  refine conforms_bind (conforms_call hassistance) fun response => ?_
  refine conforms_bind (conforms_judging (failsWithin_reportedIn response)) fun reported => ?_
  exact conforms_bind (conforms_note _ _ _) fun _ => conforms_classifyAll _ _ _

/-- A detection that the service turns away for now is no failure. -/
theorem conforms_settled
    {refs : List ResourceRef}
    (hassistance : conduct.permission.Allows [] (assistanceRequest path)) :
    Conforms conduct (settled path refs) := by
  refine conforms_attempt_bind (conforms_detect hassistance) (fun _ => conforms_pure _)
    (fun failure => ?_) (Or.inr fun _ => rfl)
  cases failure with
  | unavailable message details => exact conforms_pure _
  | _ => exact conforms_fail (Or.inr rfl)

theorem conforms_migrate
    {ref : ResourceRef}
    (hupgrade : conduct.permission.Allows [] (upgradeRequest path ref)) :
    Conforms conduct (migrate path ref) := by
  refine conforms_bind (conforms_call hupgrade) fun response => ?_
  refine conforms_bind (conforms_judging (failsWithin_workCount ref response)) fun total => ?_
  split
  · exact conforms_bind (conforms_note _ _ _) fun _ => conforms_pure _
  · exact conforms_bind (conforms_note _ _ _) fun _ => conforms_pure _

theorem conforms_triggerRequired
    {done : OrderedMap ResourceRef MigrationOutcome}
    {statuses : OrderedMap ResourceRef MigrationStatus}
    (hupgrade : ∀ ref, (ref, .required) ∈ statuses →
      conduct.permission.Allows [] (upgradeRequest path ref)) :
    Conforms conduct (triggerRequired path done statuses) := by
  induction statuses generalizing done with
  | nil => exact conforms_pure _
  | cons entry rest ih =>
      obtain ⟨ref, status⟩ := entry
      have hrest : ∀ other, (other, .required) ∈ rest →
          conduct.permission.Allows [] (upgradeRequest path other) :=
        fun other hmem => hupgrade other (List.mem_cons_of_mem _ hmem)
      unfold triggerRequired
      split
      · next hrequired =>
          have hmem : (ref, MigrationStatus.required) ∈ (ref, status) :: rest := by
            rw [hrequired]
            exact List.mem_cons_self
          exact conforms_bind (conforms_migrate (hupgrade ref hmem)) fun _ => ih hrest
      · exact ih hrest

theorem conforms_awaitMigrated
    {harness : Harness} {refs : List ResourceRef} {interval timeout : Float}
    (hassistance : conduct.permission.Allows [] (assistanceRequest harness.assistancePath))
    (hrule : conduct.outage ≠ .endsAtOnce) :
    Conforms conduct (awaitMigrated harness refs interval timeout) :=
  Poll.conforms_awaitConvergence (conforms_settled hassistance) hrule _ _ _ _

end Parts

end Migration
end RestartCheck
