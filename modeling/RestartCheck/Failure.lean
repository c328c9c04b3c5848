import RestartCheck.Version.Basic
import RestartCheck.Poll.Outcome
import RestartCheck.Json.Decoding

/-!
# Failures

Everything that can end an action early.  The first group are the failures that the checks
themselves raise: each names a cause and may carry what was found.  The last group are defects met
while evaluating an answer that has an unexpected shape; a run records them like any other failure.

Telling a failure can fail as well.  A version is not written when one of its components has too
many digits, so a missing capability may not be told; and there are defects whose wording is not to
be had.

**Results.**
* `Failure.missing_of_some`, `Failure.missing_of_none`: how a missing capability is told.
-/

namespace RestartCheck

/-- Why a request was not exchanged although the service can be reached. -/
inductive ExchangeFault
  | badAddress
  | badRequest
  | tooManyRedirects
  | undecodable
  | unspecific
  | brokenStream
  | ambiguousCookie
deriving DecidableEq, Repr

def ExchangeFault.name : ExchangeFault → String
  | .badAddress => "InvalidURL"
  | .badRequest => "RequestError"
  | .tooManyRedirects => "TooManyRedirects"
  | .undecodable => "DecodingError"
  | .unspecific => "HTTPError"
  | .brokenStream => "StreamError"
  | .ambiguousCookie => "CookieConflict"

/-- A defect met while evaluating an action. -/
inductive Defect
  | badValue (message : String)
  | missingKey (key : String)
  | invalidState (message : String)
  | wrongType
  | noSuchOperation
  | nestingTooDeep
  | unusablePath
  | notPlain
  | notJson (message : String)
  | exchange (fault : ExchangeFault) (message : String)
  /-- A defect of any other kind. -/
  | other (name wording : String)
  /-- A defect of any kind that cannot be told: asking for its wording is a defect itself. -/
  | untold (name : String) (cause : Defect)
deriving DecidableEq, Repr

/-- The defect of telling a value that cannot be told. -/
def Defect.ofObstacle : Json.Obstacle → Defect
  | .overlong => .badValue Decimal.unwrittenMessage
  | .tooDeep => .nestingTooDeep

/-- Why an action ended early. -/
inductive Failure
  /-- A failure without a more specific cause. -/
  | unspecific (message : String)
  /-- Phase or version inputs are missing or malformed. -/
  | configuration (message : String)
  /-- The service could not be reached. -/
  | unreachable (message : String)
  /-- A malformed answer or a violated invariant. -/
  | fatal (message : String) (details : Json)
  /-- The service is temporarily unavailable. -/
  | unavailable (message : String) (details : Json)
  /-- No entry of the capability table applies to the version. -/
  | unsupported (message capability : String) (version : Option Version)
  /-- A migration command neither worked nor had nothing to do. -/
  | migrationFailed (message : String) (status : Option Int) (body : Json)
  /-- A poll ran out of time. -/
  | timedOut (message : String) (last : Observed) (attempts : Nat)
  /-- An observed value is not the expected one. -/
  | assertion (message : String)
  /-- A resource is used that no earlier half declared. -/
  | continuity (message : String)
  /-- A defect met while evaluating an answer. -/
  | defect (cause : Defect)

namespace Failure

/-- The failure to write an integer of too many digits. -/
def unwritten : Failure :=
  .defect (.ofObstacle .overlong)

/-- A version that may be unknown, inside a message. -/
def versionText? : Option Version → Option String
  | some version => version.text?
  | none => some "None"

/-- The message about a capability that no entry of the table has for a version. -/
def missingMessage (capability version : String) : String :=
  "capability [" ++ capability ++ "] is not available in version " ++ version

/-- The failure for a capability without an entry for the version.  Its message tells the version,
so there is no such failure for a version that is not written. -/
def missing (capability : String) (version : Option Version) : Failure :=
  match versionText? version with
  | some text => .unsupported (missingMessage capability text) capability version
  | none => unwritten

/-- The wording of a failure, or the failure to tell it. -/
def message : Failure → Except Failure String
  | unspecific text => .ok text
  | configuration text => .ok text
  | unreachable text => .ok text
  | fatal text _ => .ok text
  | unavailable text _ => .ok text
  | unsupported text _ _ => .ok text
  | migrationFailed text _ _ => .ok text
  | timedOut text _ _ => .ok text
  | assertion text => .ok text
  | continuity text => .ok text
  | defect (.badValue text) => .ok text
  | defect (.missingKey key) => .ok (Text.quoted key)
  | defect (.invalidState text) => .ok text
  | defect .wrongType => .ok "the value does not have the required type"
  | defect .noSuchOperation => .ok "the value does not have the required operation"
  | defect .nestingTooDeep => .ok "maximum recursion depth exceeded"
  | defect .unusablePath => .ok "the path of a file is too long"
  | defect .notPlain => .ok "the text cannot be written in ASCII"
  | defect (.notJson text) => .ok text
  | defect (.exchange _ text) => .ok text
  | defect (.other _ text) => .ok text
  | defect (.untold _ cause) => .error (.defect cause)

/-- The name under which reports and logs list a failure. -/
def kindName : Failure → String
  | unspecific _ => "HarnessError"
  | configuration _ => "ConfigurationError"
  | unreachable _ => "Unreachable"
  | fatal _ _ => "FatalError"
  | unavailable _ _ => "ServiceUnavailable"
  | unsupported _ _ _ => "UnsupportedCapability"
  | migrationFailed _ _ _ => "MigrationFailed"
  | timedOut _ _ _ => "ConvergenceTimeout"
  | assertion _ => "ScenarioAssertionError"
  | continuity _ => "ContinuityError"
  | defect (.badValue _) => "ValueError"
  | defect (.missingKey _) => "KeyError"
  | defect (.invalidState _) => "RuntimeError"
  | defect .wrongType => "TypeError"
  | defect .noSuchOperation => "AttributeError"
  | defect .nestingTooDeep => "RecursionError"
  | defect .unusablePath => "OSError"
  | defect .notPlain => "UnicodeEncodeError"
  | defect (.notJson _) => "JSONDecodeError"
  | defect (.exchange fault _) => fault.name
  | defect (.other name _) => name
  | defect (.untold name _) => name

/-- The failure that a name lists, with a wording.  A capability that is not available is named by
the wording. -/
def named (name wording : String) (version : Option Version) : Failure :=
  match name with
  | "ConfigurationError" => configuration wording
  | "Unreachable" => unreachable wording
  | "FatalError" => fatal wording .null
  | "ServiceUnavailable" => unavailable wording .null
  | "UnsupportedCapability" => missing wording version
  | "MigrationFailed" => migrationFailed wording none .null
  | "ConvergenceTimeout" => timedOut wording (.json .null) 0
  | "ScenarioAssertionError" => assertion wording
  | "ContinuityError" => continuity wording
  | "ValueError" => defect (.badValue wording)
  | "KeyError" => defect (.missingKey wording)
  | "RuntimeError" => defect (.invalidState wording)
  | _ => unspecific wording

/-- The wording is part of how a defect is told.  That of others depends on the machinery. -/
def isWorded : Failure → Bool
  | defect (.badValue _) | defect (.missingKey _) | defect (.invalidState _) => true
  | defect (.exchange fault _) => !([.badAddress, .brokenStream, .ambiguousCookie].contains fault)
  | defect _ => false
  | _ => true

/-- The failure is a defect and not one that the checks raise. -/
def isDefect : Failure → Bool
  | defect _ => true
  | _ => false

/-- A run of digits that is not read as a number is a defect. -/
def ofNumeral (fault : Decimal.NumeralFault) : Failure :=
  .defect (.badValue fault.message)

def ofDecoding (text : String) : Json.DecodeError → Failure
  | .malformed flaw offset =>
    .defect (.notJson ((Json.DecodeError.malformed flaw offset).message text))
  | .numeral fault => ofNumeral fault
  | .tooDeep => .defect .nestingTooDeep

def decoded (text : String) : Except Failure Json :=
  (Json.decode text).mapError (ofDecoding text)

theorem missing_of_some {capability text : String} {version : Option Version}
    (h : versionText? version = some text) :
    missing capability version =
      .unsupported (missingMessage capability text) capability version := by
  simp [missing, h]

/-- A capability is never told as missing at a version that is not written. -/
theorem missing_of_none {capability : String} {version : Option Version}
    (h : versionText? version = none) : missing capability version = unwritten := by
  simp [missing, h]

end Failure

end RestartCheck
