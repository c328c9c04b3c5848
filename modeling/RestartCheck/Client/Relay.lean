import RestartCheck.Client.Connection

/-!
# Relayed exchanges

A relay carries out exchanges on behalf of a connection.  Each request is handed to it as one JSON
object, and it answers with one: a status and a body, or the reason why the service is unreachable.
-/

namespace RestartCheck.Relay

def optionalText (text : Option String) : Json :=
  (text.map Json.string).getD .null

def requestObject (request : WireRequest) : Json :=
  .object
    [("method", .string request.method), ("url", .string request.address),
     ("authorization", optionalText request.authorization),
     ("content_type", optionalText request.contentType), ("body", .string request.body)]

def textAt? (members : Json.Members) (name : String) : Option String :=
  match OrderedMap.lookup members name with
  | some (.string text) => some text
  | _ => none

/-- What the relay answered.  An answer without a status means that the service is unreachable. -/
def ofAnswer (answer : Json) : Except TransportFault WireReply :=
  let silent : TransportFault := .unreachable "the relay gave no answer"
  match answer with
  | .object members =>
    match OrderedMap.lookup members "status", textAt? members "unreachable" with
    | some (.int status), _ =>
      .ok ⟨status, [], Text.octetsOf ((textAt? members "body").getD "").toList⟩
    | _, some reason => .error (.unreachable reason)
    | _, none => .error silent
  | _ => .error silent

/-- The log entry about an exchange. -/
def entryOf (request : Request) (outcome : Except TransportFault WireReply) : Option LogEntry :=
  let about : LogFields :=
    [("method", .json (.string request.method)),
     ("path", .json (.string (Connection.rooted request.path)))]
  match outcome with
  | .ok reply =>
    some ⟨.debug, .string "service_call", about ++ [("status", .json (.int reply.status))], []⟩
  | .error (.unreachable reason) =>
    some ⟨.warning, .string "service_unreachable", about ++ [("error", .json (.string reason))], []⟩
  | .error (.failed _) => none

end RestartCheck.Relay
