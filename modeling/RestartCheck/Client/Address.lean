import RestartCheck.Decimal.Numeral
import RestartCheck.Host.Label
import RestartCheck.Host.Numeric
import RestartCheck.Json.Decoding
import RestartCheck.Json.Literal
import RestartCheck.Text.Blank
import RestartCheck.Text.LowerCase
import RestartCheck.Text.Slashes
import RestartCheck.Text.Utf8

/-!
# Addresses of requests

The address of a request is that of the service followed by the path of the request.  Characters
that cannot stand in an address are written as octets in hexadecimal; those written so already are
kept.

**Input.**  The address of the service, and a path that starts with a slash and may bring a query of
its own.  A fragment of the path is dropped.

**Results.**
* `removeDots_of_plain`: a path without single or double dots as segments is kept.
-/

namespace RestartCheck.Address

/-- Why an address cannot be used. -/
inductive Fault
  | tooLong
  | controlCharacter (c : Char) (position : Nat)
  | fourNumbers (text : String)
  | groups (text : String)
  | hostName (text : String)
  | port (text : String)
  | doubleSlash
  | colon
deriving DecidableEq, Repr

def Fault.message : Fault → String
  | .tooLong => "URL too long"
  | .controlCharacter c position =>
    "Invalid non-printable ASCII character in URL, " ++ Text.quoted (String.ofList [c])
      ++ " at position " ++ toString position ++ "."
  | .fourNumbers text => "Invalid IPv4 address: " ++ Text.quoted text
  | .groups text => "Invalid IPv6 address: " ++ Text.quoted text
  | .hostName text => "Invalid IDNA hostname: " ++ Text.quoted text
  | .port text => "Invalid port: " ++ Text.quoted text
  | .doubleSlash => "Relative URLs cannot have a path starting with '//'"
  | .colon => "Relative URLs cannot have a path starting with ':'"

/-! ## Octets in hexadecimal -/

/-- Two hexadecimal digits in upper case after a percent sign. -/
def percentEncoded (octet : UInt8) : List Char :=
  let digits := Nat.toDigits 16 octet.toNat
  '%' :: (List.replicate (2 - digits.length) '0' ++ digits.map Char.toUpper)

/-- Write every character that may not stand for itself as its octets. -/
def escape (isSafe : Char → Bool) (text : List Char) : List Char :=
  text.flatMap fun c =>
    if isSafe c then [c] else (String.utf8EncodeChar c).flatMap percentEncoded

/-- Printable characters of ASCII. -/
def isGraphic (c : Char) : Bool :=
  0x20 ≤ c.toNat && c.toNat < 0x7f

/-- Characters that stand for themselves in a query. -/
def isQuerySafe (c : Char) : Bool :=
  isGraphic c && !([' ', '"', '#', '<', '>'].contains c)

/-- Characters that stand for themselves in a fragment. -/
def isFragmentSafe (c : Char) : Bool :=
  isGraphic c && !([' ', '"', '<', '>', '`'].contains c)

/-- Characters that stand for themselves in a path. -/
def isPathSafe (c : Char) : Bool :=
  isQuerySafe c && !(['?', '`', '\x7b', '\x7d'].contains c)

/-- Characters that stand for themselves in the name and the password of a user. -/
def isUserSafe (c : Char) : Bool :=
  isPathSafe c && !(['/', ';', '=', '@', '[', '\\', ']', '^', '|'].contains c)

/-- Characters other than letters and digits that stand for themselves in the name of a host. -/
def hostMarks : List Char := "-._~!$&'()*+,;=\"`\x7b\x7d%|\\".toList

/-- Characters that stand for themselves in the name of a host. -/
def isHostSafe (c : Char) : Bool :=
  c.isAlphanum || hostMarks.contains c

/-- Characters that stand for themselves in the parameters of a query. -/
def isFormSafe (c : Char) : Bool :=
  c.isAlphanum || ['-', '.', '_', '~'].contains c

/-- Read octets in hexadecimal back; all else stands for itself. -/
def unescape : List Char → List UInt8
  | '%' :: a :: b :: rest =>
    match Json.hexValue? a, Json.hexValue? b with
    | some high, some low => UInt8.ofNat (16 * high + low) :: unescape rest
    | _, _ => Text.octetsOf ['%'] ++ unescape (a :: b :: rest)
  | c :: rest => Text.octetsOf [c] ++ unescape rest
  | [] => []

/-- A name or a value among the parameters of a query.  A space is written as a plus sign. -/
def formEncoded (text : String) : List Char :=
  text.toList.flatMap fun c => if c = ' ' then ['+'] else escape isFormSafe [c]

def parameterText : Json → String
  | .null => ""
  | .bool value => if value then "true" else "false"
  | value => value.display

/-- The values of a parameter: those of a list, or a single one. -/
def parameterValues : Json → List String
  | .array items => items.map parameterText
  | value => [parameterText value]

/-- The query that holds the parameters, if there are any. -/
def queryOf? (params : Json.Members) : Option (List Char) :=
  if params.isEmpty then none
  else
    let pairs := params.flatMap fun (name, value) =>
      (parameterValues value).map fun text => formEncoded name ++ '=' :: formEncoded text
    some (['&'].intercalate pairs)

/-! ## Parts of an address -/

/-- An address, or a path with a query.  The front is everything before the path, and the user is
named in it. -/
structure Parts where
  front : List Char := []
  user : List Char := []
  path : List Char
  query : Option (List Char) := none
  fragment : Option (List Char) := none

/-- The path with the query. -/
def Parts.target (parts : Parts) : List Char :=
  let path := if parts.path.isEmpty then ['/'] else parts.path
  match parts.query with
  | some query => path ++ '?' :: query
  | none => path

/-- What follows the first of the given marks, if there is one. -/
def after? (mark : Char) (text : List Char) : Option (List Char) :=
  match text.dropWhile (· ≠ mark) with
  | _ :: rest => some rest
  | [] => none

/-- Take a path, its query and its fragment apart, and escape them. -/
def partsOfTarget (text : List Char) : Parts :=
  let target := text.takeWhile (· ≠ '#')
  { path := escape isPathSafe (target.takeWhile (· ≠ '?'))
    query := (after? '?' target).map (escape isQuerySafe)
    fragment := (after? '#' text).map (escape isFragmentSafe) }

/-- The first control character of a text. -/
def controlFault? (text : List Char) : Option Fault :=
  (text.zipIdx.find? fun entry => entry.1.toNat < 0x20 || entry.1.toNat = 0x7f).map fun entry =>
    .controlCharacter entry.1 entry.2

/-- Drop a segment for every double dot, and the dots themselves.  The segments kept so far are in
reverse order. -/
def dropDots (kept : List (List Char)) : List (List Char) → List (List Char)
  | [] => kept.reverse
  | segment :: rest =>
    if segment = ['.'] then dropDots kept rest
    else if segment = ['.', '.'] then dropDots (if kept = [[]] then kept else kept.drop 1) rest
    else dropDots (segment :: kept) rest

/-- The path without single and double dots as segments. -/
def removeDots (path : List Char) : List Char :=
  let parts := Text.splitSlashes path
  if parts.contains ['.'] || parts.contains ['.', '.'] then
    ['/'].intercalate (dropDots [] parts)
  else path

/-- A path without dots as segments stays as it is. -/
theorem removeDots_of_plain {path : List Char} (hone : ['.'] ∉ Text.splitSlashes path)
    (htwo : ['.', '.'] ∉ Text.splitSlashes path) : removeDots path = path := by
  simp [removeDots, hone, htwo]

/-! ## The address of the service -/

/-- The characters of a scheme after its first letter. -/
def isSchemeChar (c : Char) : Bool :=
  c.isAlphanum || ['+', '.', '-'].contains c

/-- The scheme at the start of an address, and what follows its colon.  A colon alone marks no
scheme, but it is dropped. -/
def schemeOf (text : List Char) : List Char × List Char :=
  match text.takeWhile isSchemeChar, text.dropWhile isSchemeChar with
  | [], ':' :: rest => ([], rest)
  | first :: more, ':' :: rest =>
    if first.isAlpha then ((first :: more).map Char.toLower, rest) else ([], text)
  | _, _ => ([], text)

/-- The ports that need not be written. -/
def usualPorts : List (String × Int) :=
  [("http", 80), ("https", 443), ("ftp", 21), ("ws", 80), ("wss", 443)]

/-- The port of a scheme need not be written. -/
def withoutPort (scheme : List Char) (port : Int) : Bool :=
  usualPorts.contains (String.ofList scheme, port)

/-- The host at the start of a text, in brackets or up to a colon, and what follows it. -/
def hostOf (text : List Char) : List Char × List Char :=
  let rest := (text.reverse.takeWhile (· ≠ ']')).reverse
  if text.head? = some '[' ∧ text.contains ']' then (text.take (text.length - rest.length), rest)
  else (text.takeWhile (· ≠ ':'), text.dropWhile (· ≠ ':'))

/-- A host in its usual form: numeric addresses as they are, and names in lower case and in
ASCII. -/
def hostPart (host : List Char) : Except Fault (List Char) :=
  if Host.looksDotted host then
    if Host.isQuad host then .ok host else .error (.fourNumbers (String.ofList host))
  else if host.head? = some '[' ∧ host.getLast? = some ']' then
    if Host.isGrouped (host.drop 1).dropLast then .ok host
    else .error (.groups (String.ofList host))
  else if host.all fun c => c.toNat < 0x80 then
    .ok ((escape isHostSafe host).map Char.toLower)
  else
    match Host.asciiName? (Text.lower (String.ofList host)).toList with
    | some name => .ok name
    | none => .error (.hostName (String.ofList host))

/-- The number that a port is written as: decimal digits of any script, with a sign or without, and
single underscores between them. -/
def portNumber? (text : List Char) : Option Int :=
  let text := Text.trimBlank text
  let (isNegative, digits) := match text with
    | '-' :: rest => (true, rest)
    | '+' :: rest => (false, rest)
    | _ => (false, text)
  let runs := Text.partsWhere (· = '_') digits
  if runs.any List.isEmpty then none
  else
    match Decimal.readNatural runs.flatten with
    | .ok value => some (if isNegative then -value else value)
    | .error _ => none

/-- The port after a host, in decimal unless it need not be written. -/
def portPart (scheme text : List Char) : Except Fault (List Char) :=
  let digits := if text.head? = some ':' then text.drop 1 else text
  if digits.isEmpty then .ok []
  else
    match portNumber? digits with
    | some port => .ok (if withoutPort scheme port then [] else ':' :: (toString port).toList)
    | none => .error (.port (String.ofList digits))

/-- The user named before the last at sign of an authority, and what follows it. -/
def userOf (text : List Char) : List Char × List Char :=
  let host := (text.reverse.takeWhile (· ≠ '@')).reverse
  (escape isUserSafe (text.take (text.length - host.length - 1)), host)

/-- An authority in its usual form, and the user that it names: the host in lower case, and a port
only when it is not the usual one. -/
def authorityPart (scheme text : List Char) : Except Fault (List Char × List Char) := do
  let (user, rest) := userOf text
  let (host, rest) := hostOf rest
  let host ← hostPart host
  let port ← portPart scheme rest
  let mark := if user.isEmpty then [] else ['@']
  return (user, user ++ mark ++ host ++ port)

/-- The name and the password of the user that an address names, if it names one. -/
def Parts.credentials? (parts : Parts) : Option (String × String) :=
  let plain (text : List Char) : String := String.ofList (Text.decodeOctets (unescape text))
  let name := plain (parts.user.takeWhile (· ≠ ':'))
  let password := plain ((parts.user.dropWhile (· ≠ ':')).drop 1)
  if name = "" ∧ password = "" then none else some (name, password)

/-- The characters up to the path. -/
def isAuthorityChar (c : Char) : Bool :=
  !(['/', '?', '#'].contains c)

/-- Characters that an address, or a part of one, may have. -/
def lengthLimit : Nat := 65536

/-- The authority after two slashes with the user that it names, and what follows. -/
def authorityOf (scheme text : List Char) :
    Except Fault (List Char × List Char × List Char) :=
  match text with
  | '/' :: '/' :: rest => do
    let (user, authority) ← authorityPart scheme (rest.takeWhile isAuthorityChar)
    return (user, authority, rest.dropWhile isAuthorityChar)
  | _ => .ok ([], [], text)

/-- Take an address apart.  Without a scheme and an authority its path may start neither with two
slashes nor with a colon, and it keeps its dots. -/
def partsOf (text : List Char) : Except Fault Parts := do
  if lengthLimit < text.length then throw .tooLong
  if let some fault := controlFault? text then throw fault
  let (scheme, rest) := schemeOf text
  let (user, authority, target) ← authorityOf scheme rest
  let front := (if scheme.isEmpty then [] else scheme ++ [':'])
    ++ if authority.isEmpty then [] else '/' :: '/' :: authority
  let parts : Parts := { partsOfTarget target with front := front, user := user }
  if !front.isEmpty then return { parts with path := removeDots parts.path }
  if ['/', '/'].isPrefixOf parts.path then throw .doubleSlash
  if parts.path.head? = some ':' then throw .colon
  return parts

/-- The path with a slash at its end. -/
def withSlash (target : List Char) : List Char :=
  if target.getLast? = some '/' then target else target ++ ['/']

/-- A mark and the text behind it, if there is one. -/
def marked (mark : Char) : Option (List Char) → List Char
  | some text => mark :: text
  | none => []

/-- The whole address of a request: the target of the path joined to that of the service.  An
authority in the path does not count. -/
def ofRequest (service : Parts) (path : List Char) (params : Option Json.Members) :
    Except Fault (List Char) := do
  let target := (← partsOf path).target
  let joined := partsOfTarget (withSlash service.target ++ target.dropWhile (· = '/'))
  if lengthLimit < joined.path.length ∨ lengthLimit < (joined.query.getD []).length then
    throw .tooLong
  let path := if service.front.isEmpty then joined.path else removeDots joined.path
  let query :=
    match params with
    | some params => queryOf? params
    | none => joined.query
  return service.front ++ path ++ marked '?' query ++ marked '#' service.fragment

end RestartCheck.Address
