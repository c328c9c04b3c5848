import RestartCheck.Proofs.Effect.Served
import RestartCheck.Proofs.Json.Nesting
import RestartCheck.Proofs.Migration.Triggering

/-!
# What proves that a migration command has worked

A migration command is answered with the number of items that were converted.  The answer *proves*
the number when it reports success and holds an object that does not tell of a timeout and has this
integer as its total.  Neither a boolean nor a number with a fraction is an integer.

**Results.**
* `workCount_eq_ok_iff_provesWork`: the counts that are read are the ones that are proved.
* `workCount_of_not_provesWork`: how an answer without a proof is refused.
* `counts_work_unless_too_deep`: what a command comes to, for every answer.
-/

namespace RestartCheck

namespace Migration

open RestartCheck.Action Trace

/-- The answer proves that this many items were converted. -/
def ProvesWork
    (response : Response)
    (count : Nat) : Prop :=
  (200 ≤ response.status ∧ response.status < 300) ∧
  ∃ body : Json.Members,
    Json.decode response.body = .ok (.object body) ∧
    OrderedMap.lookup body "timed_out" ≠ some (.bool true) ∧
    OrderedMap.lookup body "total" = some (.int count)

/-- The failure of a migration command whose answer has this status. -/
def IsRefusal
    (status : Int)
    (failure : Failure) : Prop :=
  ∃ message body, failure = .migrationFailed message (some status) body

section Counts

variable {response : Response} {body : Json.Members} {count : Nat}

theorem gaveUp_eq_false_iff :
    gaveUp body = false ↔ OrderedMap.lookup body "timed_out" ≠ some (.bool true) := by
  unfold gaveUp
  split
  · next hflag => simp [hflag]
  · next hflag => simpa using hflag

theorem workCount?_eq_some_iff :
    workCount? body = some count ↔ OrderedMap.lookup body "total" = some (.int count) := by
  unfold workCount?
  split
  · next total htotal =>
      rw [htotal]
      split
      · next hsign =>
          simp only [Option.some.injEq, Json.int.injEq]
          omega
      · next hsign =>
          simp only [reduceCtorEq, Option.some.injEq, Json.int.injEq, false_iff]
          omega
  · next htotal => simpa using htotal _

/-- The counts that are read are the ones that are proved. -/
theorem workCount_eq_ok_iff_provesWork
    (ref : ResourceRef) :
    workCount ref response = .ok count ↔ ProvesWork response count := by
  rw [workCount_eq_ok_iff, Response.ok_iff, ProvesWork]
  refine and_congr_right fun _ => ?_
  constructor
  · rintro ⟨body, hbody, htime, htotal⟩
    rw [gaveUp_eq_false_iff] at htime
    rw [workCount?_eq_some_iff] at htotal
    rcases Response.object_eq_ok_iff.mp hbody with ⟨_, rfl⟩ | hdecoded
    · -- An empty body is read as an object without a total.
      cases htotal
    · exact ⟨body, hdecoded, htime, htotal⟩
  · rintro ⟨body, hdecoded, htime, htotal⟩
    exact ⟨body, Response.object_eq_ok_iff.mpr (Or.inr hdecoded), gaveUp_eq_false_iff.mpr htime,
      workCount?_eq_some_iff.mpr htotal⟩

theorem not_provesWork_of_isTooDeep
    (hdeep : response.IsTooDeep) :
    ¬ProvesWork response count := by
  rintro ⟨_, body, hdecoded, _⟩
  cases hdeep.2.symm.trans hdecoded

theorem isRefusal_of_not_ok
    {ref : ResourceRef} {failure : Failure}
    (hok : response.ok = false)
    (hfailed : workCount ref response = .error failure) :
    IsRefusal response.status failure := by
  simp only [workCount, hok, Bool.not_false, if_true, Except.error.injEq] at hfailed
  exact ⟨_, _, hfailed.symm⟩

/-- An object is refused when it tells of a timeout or has no total. -/
theorem isRefusal_of_object
    {ref : ResourceRef} {failure : Failure}
    (hok : response.ok = true)
    (hbody : response.object = .ok body)
    (hfailed : workCount ref response = .error failure) :
    IsRefusal response.status failure := by
  simp only [workCount, hok, Bool.not_true, if_false, Bool.false_eq_true, hbody] at hfailed
  split at hfailed
  · exact ⟨_, _, (Except.error.inj hfailed).symm⟩
  · split at hfailed
    · exact ⟨_, _, (Except.error.inj hfailed).symm⟩
    · cases hfailed

/-- A body that is no object is refused, and one that is nested too deeply breaks the reading off.
-/
theorem workCount_of_object_error
    {cause : Failure}
    (ref : ResourceRef)
    (hok : response.ok = true)
    (hbody : response.object = .error cause) :
    (response.IsTooDeep ∧ workCount ref response = .error (.defect .nestingTooDeep)) ∨
      (¬response.IsTooDeep ∧
        ∃ failure, workCount ref response = .error failure ∧
          IsRefusal response.status failure) := by
  simp only [workCount, hok, Bool.not_true, if_false, Bool.false_eq_true, hbody]
  rcases Response.fatal_or_tooDeep_of_object hbody with ⟨message, details, rfl⟩ | ⟨hdeep, rfl⟩
  · refine Or.inr ⟨fun hdeep => ?_, _, rfl, _, _, rfl⟩
    cases hbody.symm.trans (Response.object_of_tooDeep hdeep.2)
  · exact Or.inl ⟨⟨hok, hdeep⟩, rfl⟩

/-- An answer without a proof is refused with its status, unless its body cannot be read at all. -/
theorem workCount_of_not_provesWork
    (ref : ResourceRef)
    (hnone : ∀ count, ¬ProvesWork response count) :
    (response.IsTooDeep ∧ workCount ref response = .error (.defect .nestingTooDeep)) ∨
      (¬response.IsTooDeep ∧
        ∃ failure, workCount ref response = .error failure ∧
          IsRefusal response.status failure) := by
  cases hcount : workCount ref response with
  | ok count => exact absurd ((workCount_eq_ok_iff_provesWork ref).mp hcount) (hnone count)
  | error failure =>
      cases hok : response.ok with
      | false =>
          refine Or.inr ⟨fun hdeep => ?_, failure, rfl, isRefusal_of_not_ok hok hcount⟩
          cases hok.symm.trans hdeep.1
      | true =>
          cases hbody : response.object with
          | ok body =>
              exact Or.inr ⟨Response.not_isTooDeep_of_object hbody, failure, rfl,
                isRefusal_of_object hok hbody hcount⟩
          | error cause =>
              rw [← hcount]
              exact workCount_of_object_error ref hok hbody

theorem workCount_of_isTooDeep
    (ref : ResourceRef)
    (hdeep : response.IsTooDeep) :
    workCount ref response = .error (.defect .nestingTooDeep) := by
  rcases workCount_of_not_provesWork ref fun count => not_provesWork_of_isTooDeep hdeep with
    ⟨_, hcrash⟩ | ⟨hshallow, _⟩
  · exact hcrash
  · exact absurd hdeep hshallow

end Counts

/-! ## Commands -/

section Commands

variable {ref : ResourceRef} {path : String}

theorem finishes_migrate
    (serve : Request → Response)
    (path : String)
    (ref : ResourceRef) :
    Finishes serve (migrate path ref) := by
  refine finishes_bind (finishes_call _) fun response =>
    finishes_bind (finishes_ofExcept _) fun total => ?_
  split
  · exact finishes_bind (finishes_note _ _ _) fun _ => finishes_pure _
  · exact finishes_bind (finishes_note _ _ _) fun _ => finishes_pure _

/-- For every answer there is a run of the command. -/
theorem exists_runs_migrate
    (path : String)
    (ref : ResourceRef)
    (before : Session)
    (answer : Except Failure Response) :
    ∃ events result after,
      (migrate path ref).Runs before events result after ∧
      exchanges events = [⟨upgradeRequest path ref, answer⟩] := by
  cases answer with
  | error failure =>
      exact ⟨_, _, before, runs_call_bind_iff.mpr (Or.inr ⟨failure, rfl, rfl, rfl⟩), rfl⟩
  | ok response =>
      obtain ⟨events, result, after, hrun, hserved⟩ :=
        finishes_migrate (fun _ => response) path ref before
      obtain ⟨answer, hexchanges, _⟩ := exists_answer_of_runs_migrate hrun
      have hanswer := hserved ⟨_, answer⟩ (by rw [hexchanges]; exact List.mem_cons_self)
      exact ⟨events, result, after, hrun, hanswer ▸ hexchanges⟩

/-- What the answer with a count comes to. -/
theorem outcomeOf_eq_ok_iff
    {response : Response} {outcome : MigrationOutcome} :
    outcomeOf ref (.ok response) = .ok outcome ↔
      ∃ count, ProvesWork response count ∧ MigrationOutcome.ofCount count = outcome := by
  simp only [← workCount_eq_ok_iff_provesWork ref]
  unfold outcomeOf
  cases hcount : workCount ref response with
  | ok count => simp [Except.bind, Except.map, hcount]
  | error failure => simp [Except.bind, Except.map, hcount]

theorem outcomeOf_of_workCount_error
    {response : Response} {failure : Failure}
    (hfailed : workCount ref response = .error failure) :
    outcomeOf ref (.ok response) = .error failure := by
  simp [outcomeOf, Except.bind, Except.map, hfailed]

theorem ofCount_eq_performed_iff
    {found count : Nat} :
    MigrationOutcome.ofCount found = .performed count ↔ 0 < count ∧ found = count := by
  cases found with
  | zero =>
      simp only [MigrationOutcome.ofCount, reduceCtorEq, false_iff]
      omega
  | succ found =>
      simp only [MigrationOutcome.ofCount, MigrationOutcome.performed.injEq]
      omega

theorem ofCount_eq_alreadyCurrent_iff
    {found : Nat} :
    MigrationOutcome.ofCount found = .alreadyCurrent ↔ found = 0 := by
  cases found with
  | zero => simp [MigrationOutcome.ofCount]
  | succ found => simp [MigrationOutcome.ofCount]

end Commands

/-- **Only a proof of the work counts.**  A migration command is one request.  It reports work
exactly when the answer proves that one item or more was converted, and nothing to do exactly when
the answer proves that none was.  Every other answer is refused with its status, except that the
command crashes when a successful answer is nested too deeply to be read.  A request that fails ends
the command with its failure. -/
theorem counts_work_unless_too_deep
    (path : String)
    (ref : ResourceRef)
    (before : Session) :
    (∀ answer, ∃ events result after,
      (migrate path ref).Runs before events result after ∧
      exchanges events = [⟨upgradeRequest path ref, answer⟩]) ∧
    ∀ events result after,
      (migrate path ref).Runs before events result after →
      ∃ answer,
        exchanges events = [⟨upgradeRequest path ref, answer⟩] ∧
        (∀ failure, answer = .error failure → result = .error failure) ∧
        ∀ response, answer = .ok response →
          (∀ count, result = .ok (.performed count) ↔ 0 < count ∧ ProvesWork response count) ∧
          (result = .ok .alreadyCurrent ↔ ProvesWork response 0) ∧
          (response.IsTooDeep → result = .error (.defect .nestingTooDeep)) ∧
          (¬response.IsTooDeep → (∀ count, ¬ProvesWork response count) →
            ∃ failure, result = .error failure ∧ IsRefusal response.status failure) := by
  refine ⟨exists_runs_migrate path ref before, fun events result after hrun => ?_⟩
  obtain ⟨answer, hexchanges, _, rfl⟩ := exists_answer_of_runs_migrate hrun
  refine ⟨answer, hexchanges, ?_, ?_⟩
  · rintro failure rfl
    rfl
  · rintro response rfl
    simp only [outcomeOf_eq_ok_iff, ofCount_eq_performed_iff, ofCount_eq_alreadyCurrent_iff]
    refine ⟨fun count => ?_, ?_, fun hdeep => ?_, fun hshallow hnone => ?_⟩
    · constructor
      · rintro ⟨found, hproved, hpositive, rfl⟩
        exact ⟨hpositive, hproved⟩
      · rintro ⟨hpositive, hproved⟩
        exact ⟨count, hproved, hpositive, rfl⟩
    · simp
    · exact outcomeOf_of_workCount_error (workCount_of_isTooDeep ref hdeep)
    · rcases workCount_of_not_provesWork ref hnone with
        ⟨hdeep, _⟩ | ⟨_, failure, hfailed, hrefused⟩
      · exact absurd hdeep hshallow
      · exact ⟨failure, outcomeOf_of_workCount_error hfailed, hrefused⟩

/-- Three items were converted. -/
def threeText : List Char :=
  objectText [("total", "3".toList), ("timed_out", "false".toList)]

/-- A flag stands for the number of items. -/
def flagText : List Char :=
  objectText [("total", "true".toList)]

theorem provesWork_threeText :
    ProvesWork ⟨200, String.ofList threeText⟩ 3 := by
  have hthree : holdsObject (fun body => workCount? body == some 3 && !gaveUp body) threeText
      = true := by
    decide +kernel
  obtain ⟨body, hbody, htest⟩ := exists_object_of_chars 200 _ (List.cons_ne_nil _ _) hthree
  rw [Bool.and_eq_true, beq_iff_eq, Bool.not_eq_true'] at htest
  exact (workCount_eq_ok_iff_provesWork migratingStore).mp
    (workCount_eq_ok_iff.mpr ⟨rfl, body, hbody, htest.2, htest.1⟩)

theorem not_provesWork_flagText :
    ¬Response.IsTooDeep ⟨200, String.ofList flagText⟩ ∧
    ∀ count, ¬ProvesWork ⟨200, String.ofList flagText⟩ count := by
  have hflag : holdsObject (fun body => workCount? body == none) flagText = true := by
    decide +kernel
  obtain ⟨body, hbody, htest⟩ := exists_object_of_chars 200 _ (List.cons_ne_nil _ _) hflag
  refine ⟨Response.not_isTooDeep_of_object hbody, fun count hproved => ?_⟩
  obtain ⟨_, known, hknown, _, hcount⟩ :=
    workCount_eq_ok_iff.mp ((workCount_eq_ok_iff_provesWork migratingStore).mpr hproved)
  cases hbody.symm.trans hknown
  cases hcount.symm.trans (eq_of_beq htest)

/-- An answer with a number proves it, and an answer with a flag in its place proves nothing. -/
theorem counts_three_converted :
    (∃ events after,
      (migrate Harness.standardUpgradePath migratingStore).Runs {} events
        (.ok (.performed 3)) after) ∧
    ∃ events after failure,
      (migrate Harness.standardUpgradePath migratingStore).Runs {} events
        (.error failure) after ∧
      IsRefusal 200 failure := by
  obtain ⟨hexists, hcounts⟩ :=
    counts_work_unless_too_deep Harness.standardUpgradePath migratingStore {}
  constructor
  · obtain ⟨events, result, after, hrun, hexchanges⟩ := hexists (.ok ⟨200, String.ofList threeText⟩)
    obtain ⟨answer, hanswer, _, hanswered⟩ := hcounts events result after hrun
    cases hexchanges.symm.trans hanswer
    have hperformed := ((hanswered _ rfl).1 3).mpr ⟨by decide, provesWork_threeText⟩
    exact ⟨events, after, hperformed ▸ hrun⟩
  · obtain ⟨events, result, after, hrun, hexchanges⟩ := hexists (.ok ⟨200, String.ofList flagText⟩)
    obtain ⟨answer, hanswer, _, hanswered⟩ := hcounts events result after hrun
    cases hexchanges.symm.trans hanswer
    obtain ⟨hshallow, hnone⟩ := not_provesWork_flagText
    obtain ⟨failure, rfl, hrefused⟩ := (hanswered _ rfl).2.2.2 hshallow hnone
    exact ⟨events, after, failure, hrun, hrefused⟩

/-- The command is answered with success and a body of brackets. -/
theorem crashes_on_deep_answer :
    ∃ events after,
      (migrate Harness.standardUpgradePath migratingStore).Runs {} events
        (.error (.defect .nestingTooDeep)) after ∧
      exchanges events =
        [⟨upgradeRequest Harness.standardUpgradePath migratingStore,
          .ok ⟨200, Json.deepText⟩⟩] ∧
      (∀ count, ¬ProvesWork ⟨200, Json.deepText⟩ count) ∧
      ¬IsRefusal 200 (.defect .nestingTooDeep) := by
  obtain ⟨events, result, after, hrun, hexchanges⟩ := exists_runs_migrate
    Harness.standardUpgradePath migratingStore {} (.ok ⟨200, Json.deepText⟩)
  obtain ⟨answer, hanswer, _, rfl⟩ := exists_answer_of_runs_migrate hrun
  cases hexchanges.symm.trans hanswer
  have hdeep := Response.isTooDeep_deepText
  rw [outcomeOf_of_workCount_error (workCount_of_isTooDeep migratingStore hdeep)] at hrun
  refine ⟨events, after, hrun, hexchanges, fun count => not_provesWork_of_isTooDeep hdeep, ?_⟩
  rintro ⟨message, body, hfailure⟩
  cases hfailure

end Migration
end RestartCheck
