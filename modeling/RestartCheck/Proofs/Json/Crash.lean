import RestartCheck.Proofs.Effect.Failures
import RestartCheck.Proofs.Json.Reading

/-!
# Readings that crash

A reading of an answer *crashes* when the answer is nested too deeply, or when something in it has
no elements or members to look at.  A number that cannot be written is a crash as well.  Every other
failure of a reading is one that the checks raise.

**Results.**
* `crashesWhen_bind`, `crashesWhen_mapM`: when a composed reading crashes.
* `crashesWhen_object`: the body of an answer.
* `Json.failsWithin_checks_extract`, `Json.failsWithin_checks_extractOr`: no path without an index
  crashes.
* `Json.crashesWhen_presentElements`, `Json.crashesWhen_presentValues`: stepping through a value.
-/

namespace RestartCheck

/-- The failure is none of the checks: the value at hand cannot be stepped through, has no members,
or is nested too deeply, or a number cannot be written. -/
inductive Failure.IsCrash : Failure → Prop
  | wrongType : IsCrash (.defect .wrongType)
  | noSuchOperation : IsCrash (.defect .noSuchOperation)
  | nestingTooDeep : IsCrash (.defect .nestingTooDeep)
  | unwritten : IsCrash .unwritten

/-- The failure is one that the checks raise. -/
def Failure.IsOfChecks (failure : Failure) : Prop :=
  failure.isDefect = false

theorem Failure.IsCrash.not_isOfChecks
    {failure : Failure}
    (hcrash : failure.IsCrash) :
    ¬failure.IsOfChecks := by
  intro hchecks
  cases hcrash <;> cases hchecks

section Rules

variable {α β : Type} {known : Except Failure α} {condition other : Prop}

def Crashes (known : Except Failure α) : Prop :=
  ∃ failure, known = .error failure ∧ failure.IsCrash

theorem crashes_error
    {failure : Failure}
    (hcrash : failure.IsCrash) :
    Crashes (.error failure : Except Failure α) :=
  ⟨failure, rfl, hcrash⟩

theorem Crashes.bind
    (hcrash : Crashes known)
    (next : α → Except Failure β) :
    Crashes (known >>= next) := by
  obtain ⟨failure, rfl, hfailure⟩ := hcrash
  exact crashes_error hfailure

/-- The reading crashes in one case, and in every other case it ends with a value or with a failure
of the checks. -/
structure CrashesWhen
    (condition : Prop)
    (known : Except Failure α) : Prop where
  crash : condition → Crashes known
  checked : ¬condition → FailsWithin Failure.IsOfChecks known

theorem CrashesWhen.congr
    (hknown : CrashesWhen condition known)
    (hiff : condition ↔ other) :
    CrashesWhen other known :=
  ⟨fun hother => hknown.crash (hiff.mpr hother),
    fun hnot => hknown.checked fun hcondition => hnot (hiff.mp hcondition)⟩

/-- A reading that only fails as the checks do never crashes. -/
theorem crashesWhen_false
    (hchecked : FailsWithin Failure.IsOfChecks known) :
    CrashesWhen False known :=
  ⟨False.elim, fun _ => hchecked⟩

theorem crashesWhen_true
    (hcrash : Crashes known) :
    CrashesWhen True known :=
  ⟨fun _ => hcrash, fun hnot => absurd trivial hnot⟩

theorem crashesWhen_bind
    {next : α → Except Failure β} {later : α → Prop}
    (hknown : CrashesWhen condition known)
    (hnext : ∀ value, known = .ok value → CrashesWhen (later value) (next value)) :
    CrashesWhen (condition ∨ ∃ value, known = .ok value ∧ later value) (known >>= next) := by
  constructor
  · rintro (hcondition | ⟨value, rfl, hlater⟩)
    · exact (hknown.crash hcondition).bind next
    · exact (hnext value rfl).crash hlater
  · intro hnot
    rw [not_or] at hnot
    cases known with
    | error failure =>
        exact failsWithin_error (hknown.checked hnot.1 failure rfl)
    | ok value =>
        exact (hnext value rfl).checked fun hlater => hnot.2 ⟨value, rfl, hlater⟩

/-- What follows on a reading may fail as the checks do, but never crashes. -/
theorem crashesWhen_bind_of_checked
    {next : α → Except Failure β}
    (hknown : CrashesWhen condition known)
    (hnext : ∀ value, known = .ok value → FailsWithin Failure.IsOfChecks (next value)) :
    CrashesWhen condition (known >>= next) :=
  (crashesWhen_bind hknown fun value hvalue => crashesWhen_false (hnext value hvalue)).congr
    (by simp)

theorem crashesWhen_mapM
    {items : List α} {read : α → Except Failure β} {broken : α → Prop}
    (hread : ∀ item, CrashesWhen (broken item) (read item))
    (htotal : ∀ item, ¬broken item → ∃ value, read item = .ok value) :
    CrashesWhen (∃ item ∈ items, broken item) (items.mapM read) := by
  induction items with
  | nil => exact (crashesWhen_false (failsWithin_ok [])).congr (by simp)
  | cons item rest ih =>
      rw [List.mapM_cons]
      by_cases hbroken : broken item
      · refine (crashesWhen_true (((hread item).crash hbroken).bind _)).congr ?_
        simp [hbroken]
      · obtain ⟨value, hvalue⟩ := htotal item hbroken
        rw [hvalue]
        refine (crashesWhen_bind_of_checked ih fun values _ => failsWithin_ok _).congr ?_
        simp [hbroken]

end Rules

/-! ## Bodies -/

section Bodies

variable {α : Type} {response : Response}

/-- The body of the answer is nested too deeply, or it is an object of the given shape. -/
def Response.IsUnreadable
    (malformed : Json.Members → Prop)
    (response : Response) : Prop :=
  Json.decode response.body = .error .tooDeep ∨
    ∃ body, response.object = .ok body ∧ malformed body

theorem crashesWhen_object
    (response : Response) :
    CrashesWhen (Json.decode response.body = .error .tooDeep) response.object := by
  constructor
  · intro hdeep
    have hnonempty : response.body ≠ "" := by
      intro hempty
      rw [hempty] at hdeep
      cases hdeep
    unfold Response.object
    rw [if_neg hnonempty, hdeep]
    exact crashes_error .nestingTooDeep
  · intro hshallow
    unfold Response.object
    split
    · exact failsWithin_ok []
    split
    · exact failsWithin_ok _
    · exact failsWithin_error rfl
    · next hdeep => exact absurd hdeep hshallow
    · exact failsWithin_error rfl

end Bodies

namespace Json

/-! ## Paths -/

/-- No segment of the path is taken for an index. -/
def IsPlainPath (path : String) : Prop :=
  ∀ segment ∈ segments path.toList, isIndex segment = false

instance (path : String) : Decidable (IsPlainPath path) :=
  inferInstanceAs (Decidable (∀ _ ∈ _, _))

section Paths

variable {path : String}

theorem exists_step_eq_ok
    {segment : List Char}
    (data : Json)
    (hplain : isIndex segment = false) :
    ∃ found, data.step segment = .ok found := by
  unfold step
  split
  · exact ⟨_, rfl⟩
  · rw [hplain]
    exact ⟨none, rfl⟩
  · exact ⟨none, rfl⟩

theorem exists_walk_eq_ok
    {steps : List (List Char)}
    (data : Json)
    (hplain : ∀ segment ∈ steps, isIndex segment = false) :
    ∃ found, data.walk steps = .ok found := by
  induction steps generalizing data with
  | nil => exact ⟨some data, rfl⟩
  | cons segment rest ih =>
      rw [List.forall_mem_cons] at hplain
      obtain ⟨found, hfound⟩ := exists_step_eq_ok data hplain.1
      rw [walk, hfound]
      cases found with
      | none => exact ⟨none, rfl⟩
      | some next => exact ih next hplain.2

theorem exists_find_eq_ok
    (data : Json)
    (hplain : IsPlainPath path) :
    ∃ found, data.find path = .ok found :=
  exists_walk_eq_ok data hplain

theorem exists_extractOr_eq_ok
    (path : String)
    (data fallback : Json)
    (hplain : IsPlainPath path) :
    ∃ value, data.extractOr path fallback = .ok value := by
  obtain ⟨found, hfound⟩ := exists_find_eq_ok data hplain
  exact ⟨_, extractOr_eq_ok_iff.mpr ⟨found, hfound, rfl⟩⟩

theorem failsWithin_checks_extractOr
    (data fallback : Json)
    (hplain : IsPlainPath path) :
    FailsWithin Failure.IsOfChecks (data.extractOr path fallback) := by
  obtain ⟨value, hvalue⟩ := exists_extractOr_eq_ok path data fallback hplain
  rw [hvalue]
  exact failsWithin_ok value

theorem failsWithin_checks_extract
    (data : Json)
    (hplain : IsPlainPath path) :
    FailsWithin Failure.IsOfChecks (data.extract path) := by
  obtain ⟨found, hfound⟩ := exists_find_eq_ok data hplain
  unfold extract
  rw [hfound]
  cases found with
  | none => exact failsWithin_error rfl
  | some value => exact failsWithin_ok value

end Paths

/-! ## Members and elements -/

/-- The value can be stepped through. -/
def isSequence : Json → Bool
  | .array _ | .object _ | .string _ => true
  | _ => false

theorem crashesWhen_member
    (data : Json)
    (name : String) :
    CrashesWhen (data.isObject = false) (data.member name) := by
  cases data with
  | object members => exact (crashesWhen_false (failsWithin_ok _)).congr (by simp [isObject])
  | _ => exact (crashesWhen_true (crashes_error .noSuchOperation)).congr (by simp [isObject])

theorem exists_member_eq_ok
    {data : Json}
    (name : String)
    (hobject : data.isObject ≠ false) :
    ∃ value, data.member name = .ok value := by
  obtain ⟨members, rfl⟩ := isObject_iff.mp (by simpa using hobject)
  exact ⟨_, rfl⟩

theorem crashesWhen_elements
    (data : Json) :
    CrashesWhen (data.isSequence = false) data.elements := by
  cases data with
  | array items => exact (crashesWhen_false (failsWithin_ok _)).congr (by simp [isSequence])
  | object members => exact (crashesWhen_false (failsWithin_ok _)).congr (by simp [isSequence])
  | string text => exact (crashesWhen_false (failsWithin_ok _)).congr (by simp [isSequence])
  | _ => exact (crashesWhen_true (crashes_error .wrongType)).congr (by simp [isSequence])

theorem crashesWhen_presentElements
    (data : Json) :
    CrashesWhen (data.truthy = true ∧ data.isSequence = false) data.presentElements := by
  unfold presentElements
  split
  · next htruthy => exact (crashesWhen_elements data).congr (by simp [htruthy])
  · next hfalsy => exact (crashesWhen_false (failsWithin_ok _)).congr (by simp [hfalsy])

theorem presentValues_object
    (members : Members) :
    (object members).presentValues = .ok (members.map Prod.snd) := by
  cases members with
  | nil => rfl
  | cons _ _ => rfl

theorem presentValues_of_falsy
    {data : Json}
    (hfalsy : data.truthy = false) :
    data.presentValues = .ok [] :=
  if_neg (by simp [hfalsy])

theorem presentValues_of_broken
    {data : Json}
    (htruthy : data.truthy = true)
    (hobject : data.isObject = false) :
    data.presentValues = .error (.defect .noSuchOperation) := by
  rw [presentValues, if_pos htruthy]
  cases data with
  | object members => cases hobject
  | _ => rfl

theorem crashesWhen_presentValues
    (data : Json) :
    CrashesWhen (data.truthy = true ∧ data.isObject = false) data.presentValues := by
  cases htruthy : data.truthy with
  | false =>
      rw [presentValues_of_falsy htruthy]
      exact (crashesWhen_false (failsWithin_ok _)).congr (by simp)
  | true =>
      cases hobject : data.isObject with
      | false =>
          rw [presentValues_of_broken htruthy hobject]
          exact (crashesWhen_true (crashes_error .noSuchOperation)).congr (by simp)
      | true =>
          obtain ⟨members, rfl⟩ := isObject_iff.mp hobject
          rw [presentValues_object]
          exact (crashesWhen_false (failsWithin_ok _)).congr (by simp)

end Json
end RestartCheck
