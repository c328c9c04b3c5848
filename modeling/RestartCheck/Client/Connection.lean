import RestartCheck.Client.Reply
import RestartCheck.Effect.Procedure
import RestartCheck.Json.Encoding
import RestartCheck.Text.Base64

/-!
# Connections to the service

A connection turns requests into what is sent over the wire, and what comes back into answers.  The
exchange itself is left to a transport.  A transport that cannot reach the service makes the request
fail as unreachable; other failures of an exchange are passed on.

**Results.**
* `prepare_closed`: nothing is sent over a closed connection.
* `length_converse`: every request is answered.
-/

namespace RestartCheck

structure WireRequest where
  method : String
  address : String
  authorization : Option String
  contentType : Option String
  body : String
deriving Inhabited

/-! ## Connections -/

structure Connection where
  baseUrl : String
  service : Address.Parts
  authorization : Option String
  isClosed : Bool := false

namespace Connection

/-- The header that names a user with a password. -/
def basicAuthorization (username password : String) : String :=
  "Basic " ++ String.ofList
    (Text.Base64.encode (Text.octetsOf (username.toList ++ ':' :: password.toList)))

/-- An address that cannot be used. -/
def addressFailure (fault : Address.Fault) : Failure :=
  .defect (.exchange .badAddress fault.message)

/-- Open a connection.  Without a user name the user that the address names is meant; if it names
none either, requests carry no authorization. -/
def connect (baseUrl : String) (username password : Option String) :
    Except Failure Connection := do
  let baseUrl := Text.trimSlashes baseUrl
  let service ← (Address.partsOf baseUrl.toList).mapError addressFailure
  let given := (username.filter (· ≠ "")).map fun username => (username, password.getD "")
  let authorization := (given.or service.credentials?).map fun (username, password) =>
    basicAuthorization username password
  return ⟨baseUrl, service, authorization, false⟩

def ofSettings (settings : ClientSettings) : Except Failure Connection :=
  connect settings.baseUrl (some settings.username) (some settings.password)

/-- The text under a name.  An empty value counts as none; other values are refused. -/
def textOf? (arguments : Json.Members) (name : String) : Except Failure (Option String) :=
  match arguments.getOrNull name with
  | .string text => .ok (some text)
  | value => if value.truthy then .error (.defect .wrongType) else .ok none

/-- Names of the values that a connection can be opened with. -/
def argumentNames : List String := ["base_url", "username", "password", "timeout", "verify_tls"]

/-- Open a connection as named values ask for.  A password counts only along with a user name. -/
def ofArguments (arguments : Json.Members) : Except Failure Connection := do
  if arguments.any fun argument => !argumentNames.contains argument.1 then
    throw (.defect .wrongType)
  let defaults : ClientSettings := {}
  let baseUrl ← match OrderedMap.lookup arguments "base_url" with
    | none => pure defaults.baseUrl
    | some (.string text) => pure text
    | some _ => throw (.defect .noSuchOperation)
  let username ← textOf? arguments "username"
  let password ← if username.getD "" = "" then pure none else textOf? arguments "password"
  connect baseUrl username password

def close (connection : Connection) : Connection :=
  { connection with isClosed := true }

/-- The path with a slash in front. -/
def rooted (path : String) : String :=
  if path.toList.head? = some '/' then path else "/" ++ path

/-- The body of a request and its content type.  A text is sent as it is, and its content type must
be written in ASCII. -/
def bodyOf (request : Request) : Except Failure (String × Option String) :=
  match request.body with
  | none => .ok ("", none)
  | some .null => .ok ("", none)
  | some (.string text) =>
    if request.contentType.toList.all fun c => c.toNat < 0x80 then
      .ok (text, some request.contentType)
    else .error (.defect .notPlain)
  | some value =>
    match value.encode? .compact with
    | some text => .ok (text, some "application/json")
    | none =>
      .error (.defect (.badValue "Out of range float values are not JSON compliant"))

/-- Turn a request into what is sent. -/
def prepare (connection : Connection) (request : Request) : Except Failure WireRequest := do
  let address ← (Address.ofRequest connection.service (rooted request.path).toList
    request.params).mapError addressFailure
  let (body, contentType) ← bodyOf request
  if connection.isClosed then
    throw (.defect (.invalidState "Cannot send a request, as the client has been closed."))
  return {
    method := String.ofList (request.method.toList.map Char.toUpper)
    address := String.ofList address
    authorization := connection.authorization
    contentType := contentType
    body := body }

/-- Turn what was taken from the service into an answer. -/
def conclude (request : Request) : Except TransportFault WireReply → Except Failure Response
  | .ok reply => .ok ⟨reply.status, reply.text⟩
  | .error (.unreachable message) =>
    .error (.unreachable
      (request.method ++ " " ++ rooted request.path ++ " failed: " ++ message))
  | .error (.failed failure) => .error failure

/-- What was sent, and the answers to requests in order.  Every request that is sent takes the next
outcome, and the last one is never used up; requests that cannot be read are not sent. -/
def converse (connection : Connection) :
    List (Except Failure Request) → List (Except TransportFault WireReply) →
    List WireRequest × List (Except Failure Response)
  | [], _ => ([], [])
  | request :: rest, outcomes =>
    match request, request >>= connection.prepare with
    | .ok request, .ok wire =>
      let outcome := outcomes.head?.getD (.error (.unreachable ""))
      let (sent, answers) :=
        connection.converse rest (if outcomes.length ≤ 1 then outcomes else outcomes.tail)
      (wire :: sent, conclude request (settle wire.address outcome) :: answers)
    | _, .error failure =>
      let (sent, answers) := connection.converse rest outcomes
      (sent, .error failure :: answers)
    | .error failure, .ok _ =>
      let (sent, answers) := connection.converse rest outcomes
      (sent, .error failure :: answers)

/-- Every request is answered. -/
theorem length_converse (connection : Connection) (requests : List (Except Failure Request))
    (outcomes : List (Except TransportFault WireReply)) :
    (connection.converse requests outcomes).2.length = requests.length := by
  induction requests generalizing outcomes with
  | nil => rfl
  | cons request rest ih =>
    unfold converse
    split <;> simp [ih]

/-- Nothing is sent over a closed connection. -/
theorem prepare_closed {connection : Connection} (h : connection.isClosed = true)
    (request : Request) : ∃ failure, connection.prepare request = .error failure := by
  unfold prepare
  cases (Address.ofRequest connection.service (rooted request.path).toList
      request.params).mapError addressFailure with
  | error e => exact ⟨e, rfl⟩
  | ok address =>
    cases hbody : bodyOf request with
    | error e => exact ⟨e, by simp [bind, Except.bind]⟩
    | ok pair => exact ⟨_, by simp [bind, Except.bind, h]; rfl⟩

end Connection

end RestartCheck
