import RestartCheck.Client.Address
import RestartCheck.Client.Charset
import RestartCheck.Failure

/-!
# Replies

What comes back for a request: a status, headers and the octets of a body, or the reason why nothing
does.  The headers tell which character set the body is in.  Codings of the body are the matter of
the transport, which hands its octets over as they were before.

**Input.**  A reply, and the address that it came from.

**Output.**  The text of the body, or why the reply cannot be taken.
-/

namespace RestartCheck

/-- An answer as it comes back. -/
structure WireReply where
  status : Int
  headers : List (String × String) := []
  body : List UInt8

/-- Why a transport has no answer. -/
inductive TransportFault
  | unreachable (message : String)
  | failed (failure : Failure)

namespace TransportFault

def exchange (fault : ExchangeFault) (message : String) : TransportFault :=
  .failed (.defect (.exchange fault message))

/-- Faults that are not about reaching the service, by their names. -/
def exchangeFaults : List ExchangeFault :=
  [.badAddress, .badRequest, .tooManyRedirects, .undecodable, .unspecific, .brokenStream,
   .ambiguousCookie]

/-- The names of faults that mean that the service is unreachable. -/
def unreachableNames : List String :=
  ["TransportError", "TimeoutException", "ConnectTimeout", "ReadTimeout", "WriteTimeout",
   "PoolTimeout", "NetworkError", "ConnectError", "ReadError", "WriteError", "CloseError",
   "ProtocolError", "LocalProtocolError", "RemoteProtocolError", "ProxyError",
   "UnsupportedProtocol"]

/-- The names of faults that cannot be told by a message alone. -/
def furtherNames : List String :=
  ["HTTPStatusError", "StreamConsumed", "StreamClosed", "ResponseNotRead", "RequestNotRead"]

def named (name message : String) : TransportFault :=
  if unreachableNames.contains name then .unreachable message
  else
    match exchangeFaults.find? (·.name == name) with
    | some fault => exchange fault message
    | none =>
      .failed (.defect (if furtherNames.contains name then .wrongType else .noSuchOperation))

end TransportFault

namespace WireReply

/-- The value of a header.  Values under the same name are put together. -/
def header? (reply : WireReply) (name : String) : Option String :=
  match reply.headers.filter fun header => Text.lower header.1 = name with
  | [] => none
  | found => some (", ".intercalate (found.map Prod.snd))

/-- The headers can be written in ASCII. -/
def hasPlainHeaders (reply : WireReply) : Bool :=
  reply.headers.all fun (name, value) => (name ++ value).toList.all fun c => c.toNat < 0x80

/-! ## Where a reply points to -/

/-- Statuses with which a reply can point to another place. -/
def pointingStatuses : List Int := [301, 302, 303, 307, 308]

/-- The place that the reply points to, if it does. -/
def place? (reply : WireReply) : Option String :=
  if pointingStatuses.contains reply.status then reply.header? "location" else none

/-- The fault of a place that a reply points to.  It is not gone to, but it must be an address, and
with a scheme but without a host its path must start with a slash. -/
def placeFault? (place : String) : Option TransportFault :=
  match Address.partsOf place.toList with
  | .error fault =>
    some (.unreachable ("Invalid URL in location header: " ++ fault.message ++ "."))
  | .ok parts =>
    if parts.front.getLast? = some ':' ∧ !parts.path.isEmpty ∧ parts.path.head? ≠ some '/' then
      some (.exchange .badAddress "")
    else none

/-- The address names what kind it is: it starts with a word before a colon. -/
def hasKind (address : String) : Bool :=
  let word := address.toList.takeWhile fun c => c ≠ '/' ∧ c ≠ ':'
  !word.isEmpty && (address.toList.drop word.length).head? = some ':'

/-- The failure to keep track of an address of no kind. -/
def kindFault (address : String) : TransportFault :=
  let text := if address.toList.getLast? = some '#' then (address.dropEnd 1).toString else address
  .failed (.defect (.badValue ("unknown url type: " ++ Text.quoted text)))

/-- Take a reply from an address: the headers must be plain, and a place that it points to must be
an address. -/
def settle (address : String) (reply : WireReply) : Except TransportFault WireReply := do
  if !reply.hasPlainHeaders then throw (.failed (.defect .notPlain))
  if !hasKind address then throw (kindFault address)
  match reply.place?.bind placeFault? with
  | some fault => throw fault
  | none => return reply

def text (reply : WireReply) : String :=
  String.ofList ((Charset.ofContentType (reply.header? "content-type")).decode reply.body)

end WireReply

/-- Take what comes back from an address. -/
def settle (address : String) (outcome : Except TransportFault WireReply) :
    Except TransportFault WireReply :=
  outcome.bind (WireReply.settle address)

end RestartCheck
