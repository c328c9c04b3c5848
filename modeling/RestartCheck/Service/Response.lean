import RestartCheck.Failure

/-!
# Answers of the service

An answer is a status and a body text.  Error statuses are ordinary answers; what they mean is up to
the caller.

**Results.**
* `object_of_body_eq_empty`: an empty body is read as an empty object.
-/

namespace RestartCheck

/-- Status and body of one answer. -/
structure Response where
  status : Int
  body : String
deriving DecidableEq, Repr, Inhabited

namespace Response

/-- The status reports success. -/
def ok (response : Response) : Bool :=
  200 ≤ response.status && response.status < 300

/-- The members of the object in the body.  An empty body counts as an empty object; a body that is
no JSON object is fatal. -/
def object (response : Response) : Except Failure Json.Members :=
  if response.body = "" then .ok []
  else
    match Json.decode response.body with
    | .ok (.object members) => .ok members
    | .ok data => .error (.fatal "response body is not a JSON object" data)
    | .error .tooDeep => .error (.defect .nestingTooDeep)
    | .error e =>
      .error (.fatal ("response body is not JSON: " ++ e.message response.body)
        (.string response.body))

/-- A request succeeds with a status of the two hundreds. -/
@[simp] theorem ok_iff {response : Response} :
    response.ok = true ↔ 200 ≤ response.status ∧ response.status < 300 := by
  simp [ok]

theorem object_of_body_eq_empty {response : Response} (h : response.body = "") :
    response.object = .ok [] := by
  simp [object, h]

end Response

end RestartCheck
