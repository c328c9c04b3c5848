import RestartCheck.Scenario.Basic
import RestartCheck.Text.Search

/-!
# State survival

A single record stored before the upgrade must read back unchanged after it.
-/

namespace RestartCheck.SingleRecord

def name : String := "single_record"

def index : String := "testsingledoc"

/-- Where the record is read. -/
def recordPath : String := "/" ++ index ++ "/doc/1"

def record : String := "\x7b\"test\":\"test\"\x7d"

def store (ctx : ScenarioContext) : Action Unit := do
  let ref ← ctx.resource index
  let response ← Action.call
    { method := "PUT", path := "/" ++ ref.name ++ "/doc/1"
      params := some [("refresh", .string "true")], body := some (.string record) }
  let _ ← requireOk response ("storing " ++ recordPath)
  Action.note .info "record_stored" [("path", .json (.string recordPath))]

/-- Read the record back. -/
def verify (ctx : ScenarioContext) : Action Unit := do
  let _ ← ctx.resource index
  let response ← Action.call { method := "GET", path := recordPath }
  let _ ← requireOk response ("reading " ++ recordPath)
  check (Text.contains response.body record)
    (recordPath ++ " no longer contains " ++ record ++ ": " ++ response.body)

def scenario : Scenario where
  name := name
  resources := [{ name := index }]
  preUpgrade ctx := do
    store ctx
    verify ctx
  postUpgrade := verify

end RestartCheck.SingleRecord
