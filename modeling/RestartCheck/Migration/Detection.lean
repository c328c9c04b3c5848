import RestartCheck.Effect.Action
import RestartCheck.Text.Order

/-!
# Detecting which resources need migration

The service is asked once which resources need migration, and every requested resource is classified
by its entry in the answer.  A resource without an entry is up to date.

Migration only ever advances.  The state last reported for each resource is remembered, and an
answer that would take a resource back is fatal.
-/

namespace RestartCheck.Migration

/-- What an answer may say about a resource, and the state it stands for. -/
def actionStatus : List (String × MigrationStatus) :=
  [("upgrade", .required), ("reindex", .required), ("in_progress", .inProgress),
   ("none", .notRequired), ("not_required", .notRequired)]

/-- The state of a resource with the given entry in the answer. -/
def classify (ref : ResourceRef) (entry : Option Json) : Except Failure MigrationStatus :=
  match entry with
  | none => .ok .completed
  | some .null => .ok .completed
  | some (.object members) =>
    match OrderedMap.lookup members "action_required" with
    | none =>
      .error (.fatal ("malformed migration assistance entry for " ++ ref.text) (.object members))
    | some action =>
      let word := Text.lower action.display
      match OrderedMap.lookup actionStatus word with
      | some status => .ok status
      | none =>
        .error (.fatal ("unknown action_required [" ++ word ++ "] for " ++ ref.text)
          (.object members))
  | some entry =>
    .error (.fatal ("malformed migration assistance entry for " ++ ref.text) entry)

/-- Remember the state of a resource, which must not be behind the one remembered before. -/
def advance (ref : ResourceRef) (status : MigrationStatus) : Action Unit := do
  let session ← get
  match OrderedMap.lookup session.statuses ref with
  | some previous =>
    if status.rank < previous.rank then
      Action.fail (.fatal ("migration status of " ++ ref.text ++ " regressed from "
        ++ previous.text ++ " to " ++ status.text) .null)
  | none => pure ()
  modify fun session => { session with statuses := OrderedMap.put session.statuses ref status }

/-- The members of the answer that describe resources. -/
def reportedOf (body : Json.Members) : Except Failure Json.Members :=
  match OrderedMap.lookup body "indices" with
  | some (.object reported) => .ok reported
  | _ =>
    .error (.fatal "migration assistance response has no [indices] object" (.object body))

/-- The members of a successful answer that describe resources. -/
def reportedIn (response : Response) : Except Failure Json.Members :=
  if response.status = 503 then
    .error (.unavailable "migration assistance is temporarily unavailable"
      (.string response.body))
  else if !response.ok then
    .error (.fatal ("migration assistance query failed with status " ++ toString response.status)
      (.string response.body))
  else
    response.object.bind reportedOf

/-- Classify the resources one after the other; those before are given in `done`. -/
def classifyAll (reported : Json.Members) (done : OrderedMap ResourceRef MigrationStatus) :
    List ResourceRef → Action (OrderedMap ResourceRef MigrationStatus)
  | [] => pure done
  | ref :: rest => do
    let status ← classify ref (OrderedMap.lookup reported ref.name)
    advance ref status
    classifyAll reported (OrderedMap.put done ref status) rest

/-- Ask the service once, and classify the requested resources. -/
def detect (path : String) (refs : List ResourceRef) :
    Action (OrderedMap ResourceRef MigrationStatus) := do
  let response ← Action.call { method := "GET", path := path }
  let reported ← reportedIn response
  Action.note .info "migration_assistance"
    [("required", .json (.array ((Text.sorted (OrderedMap.keys reported)).map .string)))]
  classifyAll reported [] refs

end RestartCheck.Migration
