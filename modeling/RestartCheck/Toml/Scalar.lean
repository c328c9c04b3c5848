import RestartCheck.Settings.Node
import RestartCheck.Toml.Scanner

/-!
# Numbers, dates and times of a settings document

**Input.**  The characters where a value starts.

**Output.**  The longest number, date or time at the start, and the characters after it.  Dates and
times come first, since their first digits could be read as a number.  A single underscore may stand
between two digits of a number.  A day must exist in its month; what stands at the place of a date
but is none makes the document malformed.

**Results.**
* `digitRun_of_not_digit`: a run of digits is empty where no digit starts.
-/

namespace RestartCheck.Toml

def startsWithDigit (isDigit : Char → Bool) (text : List Char) : Bool :=
  text.head?.any isDigit

/-- The rest of a run of digits, with single underscores between digits.  Underscores are left out
of the digits. -/
def moreDigits (isDigit : Char → Bool) : List Char → List Char × List Char
  | [] => ([], [])
  | c :: rest =>
    if isDigit c then
      let (digits, after) := moreDigits isDigit rest
      (c :: digits, after)
    else if c = '_' ∧ startsWithDigit isDigit rest then moreDigits isDigit rest
    else ([], c :: rest)

/-- The longest run of digits at the start of a text, and the characters after it. -/
def digitRun (isDigit : Char → Bool) (text : List Char) : List Char × List Char :=
  if startsWithDigit isDigit text then moreDigits isDigit text else ([], text)

def valueInBase (base : Nat) (digits : List Char) : Nat :=
  digits.foldl (fun value c => base * value + (Json.hexValue? c).getD 0) 0

/-- The bases with a letter of their own, and the digits they allow. -/
def bases : List (Char × Nat × (Char → Bool)) :=
  [('x', 16, fun c => (Json.hexValue? c).isSome),
   ('b', 2, fun c => c = '0' || c = '1'),
   ('o', 8, fun c => '0' ≤ c && c ≤ '7')]

/-- An integer in one of these bases. -/
def basedInt? (text : List Char) : Option (Nat × List Char) :=
  match text with
  | '0' :: letter :: rest =>
    match bases.find? fun base => base.1 = letter with
    | some (_, base, isDigit) =>
      let (digits, after) := digitRun isDigit rest
      if digits.isEmpty then none else some (valueInBase base digits, after)
    | none => none
  | _ => none

/-- A decimal number as written. -/
structure DecimalText where
  negative : Bool
  whole : List Char
  fraction : List Char
  exponent : Option (Bool × List Char)

/-- A sign, and whether it is a minus. -/
def signOf : List Char → Bool × List Char
  | '-' :: rest => (true, rest)
  | '+' :: rest => (false, rest)
  | text => (false, text)

/-- The whole part at the start of a text: a zero, or digits that do not start with one. -/
def wholePart : List Char → List Char × List Char
  | '0' :: rest => (['0'], rest)
  | text => digitRun Char.isDigit text

/-- The fraction at the start of a text, empty when there is none. -/
def fractionPart (text : List Char) : List Char × List Char :=
  match text with
  | '.' :: rest =>
    let (digits, after) := digitRun Char.isDigit rest
    if digits.isEmpty then ([], text) else (digits, after)
  | _ => ([], text)

def exponentPart (text : List Char) : Option (Bool × List Char) × List Char :=
  match text with
  | mark :: rest =>
    if mark = 'e' ∨ mark = 'E' then
      let (negative, rest) := signOf rest
      let (digits, after) := digitRun Char.isDigit rest
      if digits.isEmpty then (none, text) else (some (negative, digits), after)
    else (none, text)
  | [] => (none, text)

/-- The decimal number at the start of a text. -/
def decimalText? (text : List Char) : Option (DecimalText × List Char) :=
  let (negative, rest) := signOf text
  let (whole, rest) := wholePart rest
  if whole.isEmpty then none
  else
    let (fraction, rest) := fractionPart rest
    let (exponent, rest) := exponentPart rest
    some (⟨negative, whole, fraction, exponent⟩, rest)

def DecimalText.value (number : DecimalText) : Except Fault Node :=
  if number.fraction.isEmpty && number.exponent.isNone then
    match Decimal.readNatural number.whole with
    | .ok n => .ok (.int (if number.negative then -(n : Int) else n))
    | .error fault => .error (.numeral fault)
  else
    let power : Int :=
      match number.exponent with
      | some (true, digits) => -(Decimal.naturalValue digits : Int)
      | some (false, digits) => Decimal.naturalValue digits
      | none => 0
    .ok (.float (Decimal.toFloat number.negative
      (Decimal.naturalValue (number.whole ++ number.fraction)) (power - number.fraction.length)))

def specialWords : List (List Char × Float) :=
  [("inf".toList, Decimal.infinity false), ("+inf".toList, Decimal.infinity false),
   ("-inf".toList, Decimal.infinity true), ("nan".toList, Decimal.notANumber),
   ("+nan".toList, Decimal.notANumber), ("-nan".toList, Decimal.notANumber)]

/-- The special double at the start of a text. -/
def specialFloat? (text : List Char) : Option (Float × List Char) :=
  (specialWords.find? fun word => word.1.isPrefixOf text).map fun word =>
    (word.2, text.drop word.1.length)

/-- Exactly `count` digits at the start of a text, as a number not above `most`. -/
def fixedDigits? (count least most : Nat) (text : List Char) : Option (Nat × List Char) :=
  let digits := text.take count
  let value := Decimal.naturalValue digits
  if digits.length = count ∧ digits.all Char.isDigit ∧ least ≤ value ∧ value ≤ most then
    some (value, text.drop count)
  else none

/-- One given character at the start of a text. -/
def mark? (accepted : List Char) : List Char → Option (List Char)
  | c :: rest => if accepted.contains c then some rest else none
  | [] => none

/-- What follows a fraction of a second, or the text itself when there is none. -/
def afterFraction (text : List Char) : List Char :=
  (fractionDigits? text).getD text
where
  /-- The characters after a point and at least one digit. -/
  fractionDigits? (text : List Char) : Option (List Char) := do
    let rest ← mark? ['.'] text
    if (rest.takeWhile Char.isDigit).isEmpty then none else some (rest.dropWhile Char.isDigit)

/-- The characters after the time of day at the start of a text. -/
def afterTime? (text : List Char) : Option (List Char) := do
  let (_, rest) ← fixedDigits? 2 0 23 text
  let (_, rest) ← fixedDigits? 2 0 59 (← mark? [':'] rest)
  let (_, rest) ← fixedDigits? 2 0 59 (← mark? [':'] rest)
  return afterFraction rest

/-- The characters after a distance from universal time such as `+01:30`. -/
def afterDistance? (text : List Char) : Option (List Char) := do
  let (_, rest) ← fixedDigits? 2 0 23 (← mark? ['+', '-'] text)
  let (_, rest) ← fixedDigits? 2 0 59 (← mark? [':'] rest)
  return rest

/-- What follows a time zone, or the text itself when there is none. -/
def afterZone (text : List Char) : List Char :=
  ((mark? ['Z', 'z'] text).or (afterDistance? text)).getD text

/-- What follows a time of day after a date, or the text itself when there is none. -/
def afterDayTime (text : List Char) : List Char :=
  (((mark? ['T', 't', ' '] text).bind afterTime?).map afterZone).getD text

/-- A year has a day more when it is divisible by four, but not by a hundred unless by four
hundred. -/
def isLeapYear (year : Nat) : Bool :=
  year % 4 = 0 && (year % 100 != 0 || year % 400 = 0)

def daysIn (year month : Nat) : Nat :=
  if month = 2 then (if isLeapYear year then 29 else 28)
  else if [4, 6, 9, 11].contains month then 30 else 31

/-- The date at the start of a text with the characters after it. -/
def dateText? (text : List Char) : Option ((Nat × Nat × Nat) × List Char) := do
  let (year, rest) ← fixedDigits? 4 0 9999 text
  let (month, rest) ← fixedDigits? 2 1 12 (← mark? ['-'] rest)
  let (day, rest) ← fixedDigits? 2 1 31 (← mark? ['-'] rest)
  return ((year, month, day), rest)

/-- Read a number, a date or a time. -/
def readScalar (text : List Char) : Reading Node :=
  match dateText? text with
  | some ((year, month, day), rest) =>
    if year ≠ 0 ∧ day ≤ daysIn year month then .ok (.moment, afterDayTime rest)
    else .error .malformed
  | none =>
    match afterTime? text, basedInt? text, decimalText? text, specialFloat? text with
    | some rest, _, _, _ => .ok (.moment, rest)
    | none, some (value, rest), _, _ => .ok (.int value, rest)
    | none, none, some (number, rest), _ => number.value.map fun value => (value, rest)
    | none, none, none, some (value, rest) => .ok (.float value, rest)
    | none, none, none, none => .error .malformed

theorem digitRun_of_not_digit {isDigit : Char → Bool} {c : Char} (h : isDigit c = false)
    (rest : List Char) : digitRun isDigit (c :: rest) = ([], c :: rest) := by
  simp [digitRun, startsWithDigit, h]

end RestartCheck.Toml
