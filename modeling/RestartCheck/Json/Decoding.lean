import RestartCheck.Json.Basic
import RestartCheck.Decimal.Numeral

/-!
# Decoding JSON

**Input.**  A text, read character by character from left to right.

**Output.**  The decoded value, or the first flaw together with the number of characters before it.
Besides the standard, `NaN`, `Infinity` and `-Infinity` are accepted.  A number with a fraction or
an exponent is a double; every other number is an integer of at most 4300 digits.  Of several
members with one name the last value counts, at the place of the first.  Half of a surrogate pair
stands for no character and is read as the replacement character.

**Algorithm.**  `scanString` is a machine with one step per character.  `readValue`, `readItems` and
`readMembers` recurse on a fuel that twice the length of the text suffices for; the depth of nesting
is bounded separately.
-/

namespace RestartCheck.Json

/-- What is wrong with a text that is not JSON. -/
inductive Flaw
  | byteOrderMark
  | noValue
  | extraData
  | noName
  | noColon
  | noComma
  | unterminatedString
  | controlCharacter
  | unknownEscape
  | brokenUnicodeEscape
deriving DecidableEq, Repr

def Flaw.message : Flaw → String
  | .byteOrderMark => "Unexpected UTF-8 BOM (decode using utf-8-sig)"
  | .noValue => "Expecting value"
  | .extraData => "Extra data"
  | .noName => "Expecting property name enclosed in double quotes"
  | .noColon => "Expecting ':' delimiter"
  | .noComma => "Expecting ',' delimiter"
  | .unterminatedString => "Unterminated string starting at"
  | .controlCharacter => "Invalid control character at"
  | .unknownEscape => "Invalid \\escape"
  | .brokenUnicodeEscape => "Invalid \\uXXXX escape"

/-- Why a text is not decoded. -/
inductive DecodeError
  | malformed (flaw : Flaw) (offset : Nat)
  | numeral (fault : Decimal.NumeralFault)
  | tooDeep
deriving DecidableEq, Repr

/-- The line and the column of an offset, both counted from one. -/
def lineAndColumn (text : List Char) (offset : Nat) : Nat × Nat :=
  let before := text.take offset
  let line := before.count '\n' + 1
  let column := (before.reverse.takeWhile (· ≠ '\n')).length + 1
  (line, column)

/-- The wording of an error.  Flaws tell where they are. -/
def DecodeError.message (text : String) : DecodeError → String
  | .malformed flaw offset =>
    let (line, column) := lineAndColumn text.toList offset
    flaw.message ++ ": line " ++ toString line ++ " column " ++ toString column
      ++ " (char " ++ toString offset ++ ")"
  | .numeral fault => fault.message
  | .tooDeep => "maximum recursion depth exceeded"

/-- The characters still to be read, and how many precede them. -/
structure Cursor where
  rest : List Char
  offset : Nat
deriving Repr

/-- Result of reading something at a cursor. -/
abbrev Reading (α : Type) := Except DecodeError (α × Cursor)

/-- White space between the parts of a JSON text. -/
def isSpace (c : Char) : Bool :=
  c = ' ' || c = '\t' || c = '\n' || c = '\r'

/-- Pass over white space. -/
def skipFrom : List Char → Nat → Cursor
  | [], offset => ⟨[], offset⟩
  | c :: rest, offset => if isSpace c then skipFrom rest (offset + 1) else ⟨c :: rest, offset⟩

/-- Pass over white space. -/
def Cursor.skip (cursor : Cursor) : Cursor :=
  skipFrom cursor.rest cursor.offset

/-- Pass over a number of characters. -/
def Cursor.advance (cursor : Cursor) (count : Nat) : Cursor :=
  ⟨cursor.rest.drop count, cursor.offset + count⟩

/-- Where the string machine stands: among plain characters, after a backslash, or inside the four
digits of an escape whose `u` has offset `mark`. -/
inductive StringMode
  | plain
  | escape
  | digits (mark count value : Nat)

/-- The value of a hexadecimal digit. -/
def hexValue? (c : Char) : Option Nat :=
  if '0' ≤ c ∧ c ≤ '9' then some (c.toNat - '0'.toNat)
  else if 'a' ≤ c ∧ c ≤ 'f' then some (c.toNat - 'a'.toNat + 10)
  else if 'A' ≤ c ∧ c ≤ 'F' then some (c.toNat - 'A'.toNat + 10)
  else none

/-- The character named by a backslash and one letter. -/
def escapedChar? (c : Char) : Option Char :=
  match c with
  | '"' => some '"'
  | '\\' => some '\\'
  | '/' => some '/'
  | 'b' => some '\x08'
  | 'f' => some '\x0c'
  | 'n' => some '\n'
  | 'r' => some '\r'
  | 't' => some '\t'
  | _ => none

/-- The code point is the first half of a surrogate pair. -/
def isHighHalf (code : Nat) : Bool := 0xd800 ≤ code && code < 0xdc00

/-- The code point is the second half of a surrogate pair. -/
def isLowHalf (code : Nat) : Bool := 0xdc00 ≤ code && code < 0xe000

/-- Give up waiting for the second half of a pair. -/
def settle (high : Option Nat) (done : List Char) : List Char :=
  if high.isSome then '\ufffd' :: done else done

/-- Add an escaped code point to the characters read so far, which are in reverse order. -/
def absorb (high : Option Nat) (done : List Char) (code : Nat) : Option Nat × List Char :=
  if isHighHalf code then (some code, settle high done)
  else if isLowHalf code then
    match high with
    | some first =>
      (none, Char.ofNat (0x10000 + (first - 0xd800) * 0x400 + (code - 0xdc00)) :: done)
    | none => (none, '\ufffd' :: done)
  else (none, Char.ofNat code :: settle high done)

/-- Read the rest of a string whose opening quote has offset `opening`. -/
def scanString (opening : Nat) :
    List Char → Nat → StringMode → Option Nat → List Char → Reading String
  | [], _, .digits mark _ _, _, _ => .error (.malformed .brokenUnicodeEscape mark)
  | [], _, _, _, _ => .error (.malformed .unterminatedString opening)
  | c :: rest, offset, .plain, high, done =>
    if c = '"' then .ok (String.ofList (settle high done).reverse, ⟨rest, offset + 1⟩)
    else if c = '\\' then scanString opening rest (offset + 1) .escape high done
    else if c.toNat < 0x20 then .error (.malformed .controlCharacter offset)
    else scanString opening rest (offset + 1) .plain none (c :: settle high done)
  | c :: rest, offset, .escape, high, done =>
    if c = 'u' then scanString opening rest (offset + 1) (.digits offset 0 0) high done
    else
      match escapedChar? c with
      | some d => scanString opening rest (offset + 1) .plain none (d :: settle high done)
      | none => .error (.malformed .unknownEscape (offset - 1))
  | c :: rest, offset, .digits mark count value, high, done =>
    match hexValue? c with
    | none => .error (.malformed .brokenUnicodeEscape mark)
    | some digit =>
      let code := 16 * value + digit
      if count < 3 then
        scanString opening rest (offset + 1) (.digits mark (count + 1) code) high done
      else if rest.isEmpty then .error (.malformed .brokenUnicodeEscape mark)
      else
        let (high, done) := absorb high done code
        scanString opening rest (offset + 1) .plain high done

/-- The parts of a number as written. -/
structure NumberText where
  negative : Bool
  whole : List Char
  fraction : List Char
  exponent : Option (Bool × List Char)
  rest : List Char

/-- The fraction at the start of a text, empty when there is none. -/
def fractionPart (text : List Char) : List Char × List Char :=
  match text with
  | '.' :: after =>
    let digits := after.takeWhile Char.isDigit
    if digits.isEmpty then ([], text) else (digits, after.dropWhile Char.isDigit)
  | _ => ([], text)

/-- The exponent at the start of a text, with its sign. -/
def exponentPart (text : List Char) : Option (Bool × List Char) × List Char :=
  match text with
  | mark :: after =>
    if mark = 'e' ∨ mark = 'E' then
      let (negative, body) :=
        match after with
        | '-' :: body => (true, body)
        | '+' :: body => (false, body)
        | _ => (false, after)
      let digits := body.takeWhile Char.isDigit
      if digits.isEmpty then (none, text)
      else (some (negative, digits), body.dropWhile Char.isDigit)
    else (none, text)
  | [] => (none, text)

/-- The number at the start of a text, as long as possible. -/
def numberText? (text : List Char) : Option NumberText :=
  let (negative, unsigned) :=
    match text with
    | '-' :: rest => (true, rest)
    | _ => (false, text)
  let whole :=
    match unsigned with
    | '0' :: _ => ['0']
    | _ => unsigned.takeWhile Char.isDigit
  if whole.isEmpty then none
  else
    let (fraction, afterFraction) := fractionPart (unsigned.drop whole.length)
    let (exponent, rest) := exponentPart afterFraction
    some ⟨negative, whole, fraction, exponent, rest⟩

def NumberText.value (number : NumberText) : Except DecodeError Json :=
  if number.fraction.isEmpty && number.exponent.isNone then
    match Decimal.readNatural number.whole with
    | .ok n => .ok (.int (if number.negative then -(n : Int) else n))
    | .error fault => .error (.numeral fault)
  else
    let digits := Decimal.naturalValue (number.whole ++ number.fraction)
    let power : Int :=
      match number.exponent with
      | some (true, exponent) => -(Decimal.naturalValue exponent : Int)
      | some (false, exponent) => Decimal.naturalValue exponent
      | none => 0
    .ok (.float (Decimal.toFloat number.negative digits (power - number.fraction.length)))

def readNumber (cursor : Cursor) : Reading Json :=
  match numberText? cursor.rest with
  | none => .error (.malformed .noValue cursor.offset)
  | some number =>
    number.value.map fun value =>
      (value, cursor.advance (cursor.rest.length - number.rest.length))

/-- The words that stand for a value. -/
def words : List (List Char × Json) :=
  [("null".toList, .null), ("true".toList, .bool true), ("false".toList, .bool false),
   ("NaN".toList, .float Decimal.notANumber),
   ("Infinity".toList, .float (Decimal.infinity false)),
   ("-Infinity".toList, .float (Decimal.infinity true))]

/-- Read a word or a number. -/
def readScalar (cursor : Cursor) : Reading Json :=
  match words.find? fun word => word.1.isPrefixOf cursor.rest with
  | some (word, value) => .ok (value, cursor.advance word.length)
  | none => readNumber cursor

mutual

/-- Read one value; `depth` counts the levels of nesting still allowed. -/
def readValue : Nat → Nat → Cursor → Reading Json
  | 0, _, _ => .error .tooDeep
  | fuel + 1, depth, cursor =>
    match cursor.rest with
    | [] => .error (.malformed .noValue cursor.offset)
    | '"' :: rest =>
      match scanString cursor.offset rest (cursor.offset + 1) .plain none [] with
      | .ok (text, cursor) => .ok (.string text, cursor)
      | .error e => .error e
    | '[' :: rest =>
      match depth with
      | 0 => .error .tooDeep
      | depth + 1 =>
        let cursor := skipFrom rest (cursor.offset + 1)
        match cursor.rest with
        | ']' :: _ => .ok (.array [], cursor.advance 1)
        | _ => readItems fuel depth cursor []
    | '\x7b' :: rest =>
      match depth with
      | 0 => .error .tooDeep
      | depth + 1 =>
        let cursor := skipFrom rest (cursor.offset + 1)
        match cursor.rest with
        | '\x7d' :: _ => .ok (.object [], cursor.advance 1)
        | _ => readMembers fuel depth cursor []
    | _ => readScalar cursor

/-- Read the remaining items of an array; those read before are in reverse order. -/
def readItems : Nat → Nat → Cursor → List Json → Reading Json
  | 0, _, _, _ => .error .tooDeep
  | fuel + 1, depth, cursor, done =>
    match readValue fuel depth cursor with
    | .error e => .error e
    | .ok (item, cursor) =>
      let cursor := cursor.skip
      match cursor.rest with
      | ']' :: _ => .ok (.array (item :: done).reverse, cursor.advance 1)
      | ',' :: _ => readItems fuel depth (cursor.advance 1).skip (item :: done)
      | _ => .error (.malformed .noComma cursor.offset)

/-- Read the remaining members of an object; those read before are in reverse order. -/
def readMembers : Nat → Nat → Cursor → List (String × Json) → Reading Json
  | 0, _, _, _ => .error .tooDeep
  | fuel + 1, depth, cursor, done =>
    match cursor.rest with
    | '"' :: rest =>
      match scanString cursor.offset rest (cursor.offset + 1) .plain none [] with
      | .error e => .error e
      | .ok (name, cursor) =>
        let cursor := cursor.skip
        match cursor.rest with
        | ':' :: _ =>
          match readValue fuel depth (cursor.advance 1).skip with
          | .error e => .error e
          | .ok (value, cursor) =>
            let cursor := cursor.skip
            let done := (name, value) :: done
            match cursor.rest with
            | '\x7d' :: _ => .ok (.object (OrderedMap.ofPairs done.reverse), cursor.advance 1)
            | ',' :: _ => readMembers fuel depth (cursor.advance 1).skip done
            | _ => .error (.malformed .noComma cursor.offset)
        | _ => .error (.malformed .noColon cursor.offset)
    | _ => .error (.malformed .noName cursor.offset)

end

/-- Decode a text given as characters. -/
def decodeChars (text : List Char) : Except DecodeError Json :=
  match text with
  | '\ufeff' :: _ => .error (.malformed .byteOrderMark 0)
  | _ =>
    match readValue (2 * text.length + 2) nestingLimit (skipFrom text 0) with
    | .error e => .error e
    | .ok (value, cursor) =>
      let cursor := cursor.skip
      if cursor.rest.isEmpty then .ok value
      else .error (.malformed .extraData cursor.offset)

def decode (text : String) : Except DecodeError Json :=
  decodeChars text.toList

end RestartCheck.Json
