import RestartCheck.Json.Basic

/-!
# Encoding JSON

Control characters, quotes and backslashes are escaped.  What else happens is a matter of style:
request bodies hold nothing optional, let all other characters stand for themselves and refuse
doubles that are not finite; log lines put a space after each separator, escape everything outside
printable ASCII and write such doubles as words.
-/

namespace RestartCheck.Json

/-- How a value is written: what stands between parts, whether characters outside printable ASCII
are escaped, and whether doubles that are not finite have words. -/
structure Style where
  comma : String
  colon : String
  asciiOnly : Bool
  wordsForSpecial : Bool

/-- Style of request bodies. -/
def Style.compact : Style := ⟨",", ":", false, false⟩

def Style.line : Style := ⟨", ", ": ", true, true⟩

def fourDigits (n : Nat) : List Char :=
  let digits := Nat.toDigits 16 n
  List.replicate (4 - digits.length) '0' ++ digits

def unitEscape (n : Nat) : List Char :=
  '\\' :: 'u' :: fourDigits n

/-- One character inside an encoded string. -/
def encodedChar (asciiOnly : Bool) (c : Char) : List Char :=
  if c = '"' then ['\\', '"']
  else if c = '\\' then ['\\', '\\']
  else if c = '\n' then ['\\', 'n']
  else if c = '\r' then ['\\', 'r']
  else if c = '\t' then ['\\', 't']
  else if c = '\x08' then ['\\', 'b']
  else if c = '\x0c' then ['\\', 'f']
  else if c.toNat < 0x20 then unitEscape c.toNat
  else if !asciiOnly || c.toNat < 0x7f then [c]
  else if c.toNat < 0x10000 then unitEscape c.toNat
  else
    let code := c.toNat - 0x10000
    unitEscape (0xd800 + code / 0x400) ++ unitEscape (0xdc00 + code % 0x400)

def encodedString (asciiOnly : Bool) (text : String) : String :=
  "\"" ++ String.ofList (text.toList.flatMap (encodedChar asciiOnly)) ++ "\""

/-- The text of a double; those that are not finite have one only as words. -/
def encodedFloat? (wordsForSpecial : Bool) (x : Float) : Option String :=
  match Decimal.Magnitude.ofFloat x with
  | .finite _ => some (Decimal.floatText x)
  | .infinite negative =>
    if wordsForSpecial then some (if negative then "-Infinity" else "Infinity") else none
  | .notANumber => if wordsForSpecial then some "NaN" else none

mutual

/-- Encode a value, unless it holds a double that is not finite. -/
def encode? (style : Style) : Json → Option String
  | .null => some "null"
  | .bool value => some (if value then "true" else "false")
  | .int value => some (toString value)
  | .float value => encodedFloat? style.wordsForSpecial value
  | .string value => some (encodedString style.asciiOnly value)
  | .array items => do
    let parts ← encodeItems? style items
    return "[" ++ style.comma.intercalate parts ++ "]"
  | .object members => do
    let parts ← encodeMembers? style members
    return "\x7b" ++ style.comma.intercalate parts ++ "\x7d"

def encodeItems? (style : Style) : List Json → Option (List String)
  | [] => some []
  | item :: rest => do
    let first ← encode? style item
    let others ← encodeItems? style rest
    return first :: others

def encodeMembers? (style : Style) : List (String × Json) → Option (List String)
  | [] => some []
  | (name, value) :: rest => do
    let first ← encode? style value
    let others ← encodeMembers? style rest
    return (encodedString style.asciiOnly name ++ style.colon ++ first) :: others

end

end RestartCheck.Json
