import RestartCheck.Decimal.Numeral
import RestartCheck.Decimal.Rounding
import RestartCheck.Text.Blank

/-!
# Numbers written as text

Environment variables hold text, so a setting that is a number can be given as one.  White space
around the number is ignored, and a single underscore may stand between two digits.  An integer may
have leading zeros and a fraction of zeros.

**Results.**
* `strip?_eq_none_of_double`: two underscores in a row are never part of a number.
-/

namespace RestartCheck.Settings

/-- White space around a number.  Unlike blanks in general it does not include the separators among
the control characters. -/
def isPadding (c : Char) : Bool :=
  Text.isBlank c && !(0x1c ≤ c.toNat && c.toNat ≤ 0x1f)

/-- The text without white space around it. -/
def trimPadding (text : List Char) : List Char :=
  ((text.dropWhile isPadding).reverse.dropWhile isPadding).reverse

/-- Two underscores stand side by side. -/
def hasDouble : List Char → Bool
  | '_' :: '_' :: _ => true
  | _ :: rest => hasDouble rest
  | [] => false

/-- The text without underscores, if none of them is at an end or next to another. -/
def strip? (text : List Char) : Option (List Char) :=
  if text.head? = some '_' ∨ text.getLast? = some '_' ∨ hasDouble text then none
  else some (text.filter (· ≠ '_'))

/-- A sign, and whether it is a minus. -/
def signOf : List Char → Bool × List Char
  | '-' :: rest => (true, rest)
  | '+' :: rest => (false, rest)
  | text => (false, text)

/-- The exponent that makes up a whole text; none at all counts as zero. -/
def exponent? (text : List Char) : Option Int :=
  match text with
  | [] => some 0
  | mark :: rest =>
    if mark = 'e' ∨ mark = 'E' then
      let (negative, digits) := signOf rest
      if digits.isEmpty || !digits.all Char.isDigit then none
      else
        let value : Int := Decimal.naturalValue digits
        some (if negative then -value else value)
    else none

def specialWords : List (List Char) :=
  ["inf".toList, "infinity".toList, "nan".toList]

/-- A number with an optional fraction and an optional exponent. -/
def plainFloat? (text : List Char) : Option Float :=
  let (negative, rest) := signOf text
  let word := rest.map Char.toLower
  if specialWords.contains word then
    some (if word = "nan".toList then Decimal.notANumber else Decimal.infinity negative)
  else
    let whole := rest.takeWhile Char.isDigit
    let (fraction, rest) :=
      match rest.dropWhile Char.isDigit with
      | '.' :: rest => (rest.takeWhile Char.isDigit, rest.dropWhile Char.isDigit)
      | rest => ([], rest)
    if whole.isEmpty && fraction.isEmpty then none
    else
      (exponent? rest).map fun power =>
        Decimal.toFloat negative (Decimal.naturalValue (whole ++ fraction))
          (power - fraction.length)

/-- The double that a text stands for.  White space around it and underscores within it are both
allowed, but not together. -/
def floatOfText? (text : String) : Option Float :=
  (plainFloat? (trimPadding text.toList)).or ((strip? text.toList).bind plainFloat?)

/-- The digits before a point that has nothing but zeros after it. -/
def dropZeroFraction (text : List Char) : List Char :=
  match text.dropWhile (· ≠ '.') with
  | '.' :: fraction =>
    if !fraction.isEmpty && fraction.all (· = '0') then text.takeWhile (· ≠ '.') else text
  | _ => text

/-- What counts after a leading zero: further zeros and underscores are passed over, and the last of
them is kept when no digit follows. -/
def afterZero? (last : Char) : List Char → Option (List Char)
  | [] => some [last]
  | c :: rest =>
    if c = '0' ∨ c = '_' then afterZero? c rest
    else if c.isDigit then some (c :: rest)
    else if c = '.' then some (last :: c :: rest)
    else none

/-- The text without leading zeros.  It must start with a digit. -/
def dropZeros? : List Char → Option (List Char)
  | [] => none
  | c :: rest =>
    if c = '0' then afterZero? c rest else if c.isDigit then some (c :: rest) else none

/-- The text of an integer in its short form: a minus sign if it has one, and digits without leading
zeros, without an idle fraction and without underscores. -/
def shortInteger? (text : String) : Option (List Char) :=
  let (negative, number) := signOf (trimPadding text.toList)
  (dropZeros? number).map fun number =>
    let number := dropZeroFraction number
    let digits := (strip? number).getD number
    if negative then '-' :: digits else digits

/-- The integer that a short form stands for. -/
def integerOf? (text : List Char) : Option Int :=
  let (negative, digits) := signOf text
  if digits.isEmpty || !digits.all Char.isDigit then none
  else
    let value : Int := Decimal.naturalValue digits
    some (if negative then -value else value)

/-- Longer short forms are not read as integers. -/
def shortIntegerLimit : Nat := 4300

/-- Two to the power of 63. -/
def wordBound : Int := 9223372036854775808

/-- The integers that fit into 64 bits with a sign. -/
def isWord (value : Int) : Bool :=
  -wordBound ≤ value && value < wordBound

theorem hasDouble_cons {c : Char} {text : List Char} (h : hasDouble text = true) :
    hasDouble (c :: text) = true := by
  unfold hasDouble
  split
  · rfl
  · next heq => cases heq; exact h
  · next heq => cases heq

/-- Doubled underscores are never stripped. -/
theorem strip?_eq_none_of_double {front back : List Char} :
    strip? (front ++ '_' :: '_' :: back) = none := by
  have h : hasDouble (front ++ '_' :: '_' :: back) = true := by
    induction front with
    | nil => rfl
    | cons c rest ih => exact hasDouble_cons ih
  simp [strip?, h]

end RestartCheck.Settings
