import RestartCheck.Json.Path
import RestartCheck.Json.Shape
import RestartCheck.Scenario.Basic
import RestartCheck.Proofs.Effect.Failures

/-!
# Judging answers

Whatever is read off an answer, or off the description of a capability, fails with a failure that
the service brings about.

**Results.**
* `failsWithin_requireOk`, `failsWithin_object`: an answer as a whole.
* `Json.failsWithin_extract`, `Json.failsWithin_elements`: what is looked up in a decoded answer.
-/

namespace RestartCheck

open RestartCheck.Action

theorem failsWithin_check
    (condition : Bool)
    (message : String) :
    FailsWithin Failure.IsOfService (check condition message) := by
  cases condition with
  | true => exact failsWithin_ok ()
  | false => exact failsWithin_error trivial

theorem failsWithin_requireOk
    (response : Response)
    (attempted : String) :
    FailsWithin Failure.IsOfService (requireOk response attempted) := by
  unfold requireOk
  split
  · exact failsWithin_ok response
  · exact failsWithin_error trivial

theorem failsWithin_object
    (response : Response) :
    FailsWithin Failure.IsOfService response.object := by
  unfold Response.object
  split
  · exact failsWithin_ok []
  split
  · exact failsWithin_ok _
  · exact failsWithin_error trivial
  · exact failsWithin_error trivial
  · exact failsWithin_error trivial

theorem failsWithin_textAt
    (members : Json.Members)
    (key : String) :
    FailsWithin Failure.IsOfService (members.textAt key) := by
  unfold Json.Members.textAt Json.Members.valueAt
  split
  · exact failsWithin_ok _
  · exact failsWithin_error trivial

namespace Json

theorem failsWithin_membersOf
    (data : Json) :
    FailsWithin Failure.IsOfService (membersOf data) := by
  unfold membersOf
  split
  · exact failsWithin_ok _
  · exact failsWithin_error trivial

theorem failsWithin_member
    (data : Json)
    (name : String) :
    FailsWithin Failure.IsOfService (data.member name) :=
  failsWithin_map (failsWithin_membersOf data)

theorem failsWithin_elements
    (data : Json) :
    FailsWithin Failure.IsOfService data.elements := by
  unfold elements
  split
  · exact failsWithin_ok _
  · exact failsWithin_ok _
  · exact failsWithin_ok _
  · exact failsWithin_error trivial

theorem failsWithin_presentElements
    (data : Json) :
    FailsWithin Failure.IsOfService data.presentElements := by
  unfold presentElements
  split
  · exact failsWithin_elements data
  · exact failsWithin_ok []

theorem failsWithin_presentValues
    (data : Json) :
    FailsWithin Failure.IsOfService data.presentValues := by
  unfold presentValues
  split
  · exact failsWithin_map (failsWithin_membersOf data)
  · exact failsWithin_ok []

theorem failsWithin_extract
    (data : Json)
    (path : String) :
    FailsWithin Failure.IsOfService (data.extract path) := by
  unfold extract
  split
  · exact failsWithin_ok _
  · exact failsWithin_error trivial
  · exact failsWithin_error trivial

theorem failsWithin_extractOr
    (data : Json)
    (path : String)
    (fallback : Json) :
    FailsWithin Failure.IsOfService (data.extractOr path fallback) := by
  unfold extractOr
  split
  · exact failsWithin_ok _
  · exact failsWithin_error trivial

end Json

end RestartCheck
