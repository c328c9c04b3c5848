import RestartCheck.Scenario.Basic
import RestartCheck.Text.Search

/-!
# Rejection of incompatible state

Before indices were limited to one mapping type, an index could hold two.  After the upgrade a query
on such an index must fail with one specific error instead of answering.
-/

namespace RestartCheck.IncompatibleIndex

def name : String := "incompatible_index"

/-- Index with two mapping types. -/
def index : String := "testsqlfailsonindexwithtwotypes"

/-- The two mapping types. -/
def types : List String := ["type1", "type2"]

/-- Status with which the query must fail. -/
def expectedStatus : Int := 400

/-- Error with which the query must fail. -/
def expectedError : String :=
  "[" ++ index ++ "] contains more than one type [" ++ ", ".intercalate types
    ++ "] so it is incompatible with sql"

def storeOf (ref : ResourceRef) (type : String) : Action Unit := do
  let response ← Action.call
    { method := "POST", path := "/" ++ ref.name ++ "/" ++ type, body := some (.object []) }
  let _ ← requireOk response ("indexing into [" ++ ref.name ++ "/" ++ type ++ "]")

/-- Create the index with both types. -/
def create (ctx : ScenarioContext) : Action Unit := do
  let ref ← ctx.resource index
  let _ ← Action.forEach types (storeOf ref)

/-- Query the index, which must fail. -/
def verify (ctx : ScenarioContext) : Action Unit := do
  let ref ← ctx.resource index
  let response ← Action.call
    { method := "POST", path := "/_xpack/sql"
      body := some (.object [("query", .string ("SELECT * FROM " ++ ref.name))]) }
  check (response.status == expectedStatus)
    ("expected status " ++ toString expectedStatus ++ " querying [" ++ ref.name ++ "], got "
      ++ toString response.status)
  check (Text.contains response.body expectedError)
    ("expected error [" ++ expectedError ++ "], got: " ++ response.body)

def scenario (table : CapabilityTable) : Scenario where
  name := name
  resources := [{ name := index }]
  preUpgrade := create
  postUpgrade := verify
  appliesTo := Scenario.predates table Capability.singleType

end RestartCheck.IncompatibleIndex
