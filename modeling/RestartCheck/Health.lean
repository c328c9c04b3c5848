import RestartCheck.Capability
import RestartCheck.Effect.Action

/-!
# Waiting for the health of the cluster

The service itself waits until the cluster, or the named resources, reach a health status.  One
request is sent; which kinds of pending work it can be told to wait for depends on the version that
the cluster started from.

**Results.**
* `isReached_iff`: only an answer that says it did not time out counts.
-/

namespace RestartCheck.Health

/-- The status of an answer whose wait inside the service timed out; it still has a body. -/
def timeoutStatus : Int := 408

/-- The wait was not cut short. -/
def isReached (body : Json.Members) : Bool :=
  match OrderedMap.lookup body "timed_out" with
  | some (.bool false) => true
  | _ => false

/-- A text that is present and not empty. -/
def nonempty? (text : Option String) : Option String :=
  text.filter (· ≠ "")

/-- Wait until the cluster, or the resources given by their names separated by commas, reach a
status.  The result is the decoded answer. -/
def await (table : CapabilityTable) (oldVersion : Version) (resources : Option String := none)
    (status : String := "yellow") (timeout : String := "30s") : Action Json.Members := do
  let waits ← table.resolve Capability.healthWait (some oldVersion)
  let params : Json.Members := [("wait_for_status", .string status), ("timeout", .string timeout)]
  let path :=
    match nonempty? resources with
    | some names => "/_cluster/health/" ++ names
    | none => "/_cluster/health"
  let response ← Action.call
    { method := "GET", path := path, params := some (OrderedMap.update params waits) }
  if !response.ok && response.status != timeoutStatus then
    Action.fail (.fatal ("health query failed with status " ++ toString response.status)
      (.string response.body))
  let body ← response.object
  if !isReached body then
    Action.fail (.assertion ("cluster health for [" ++ (nonempty? resources).getD "_all"
      ++ "] did not reach " ++ status ++ ": " ++ Json.display (.object body)))
  Action.noteShowing .info "cluster_health_reached"
    [("resources", .json ((resources.map Json.string).getD .null))]
    "status" (.json (body.getOrNull "status"))
  return body

/-- The condition is reached exactly when the answer says that the wait did not time out. -/
theorem isReached_iff {body : Json.Members} :
    isReached body = true ↔ OrderedMap.lookup body "timed_out" = some (.bool false) := by
  unfold isReached
  split
  · next h => simp [h]
  · next h => simp only [Bool.false_eq_true, false_iff]; exact h

end RestartCheck.Health
