/-!
# Host names in ASCII letters

A label of letters from any script is written in ASCII as its ASCII letters, a hyphen, and digits in
base 36 that tell where the other letters belong.  Going through the code points from the lowest to
the highest, and through the label for each of them, every letter is told by the number of places
passed over since the one before.

**Numbers.**  A number is written with the lowest digit first, and a digit below the threshold of
its place is the last one.  The thresholds follow the size of the numbers written so far.

**Results.**
* `length_readNumber`: reading a number leaves less to be read.
-/

namespace RestartCheck.Host.Punycode

/-- The digits in base 36 are the letters and then the decimal digits. -/
def digitChar (digit : Nat) : Char :=
  if digit < 26 then Char.ofNat (0x61 + digit) else Char.ofNat (0x30 + digit - 26)

/-- The value of a digit in base 36. -/
def digitValue? (c : Char) : Option Nat :=
  if 'a' ≤ c ∧ c ≤ 'z' then some (c.toNat - 0x61)
  else if c.isDigit then some (c.toNat - 0x30 + 26)
  else none

/-- The threshold of a place.  Places are counted in steps of 36. -/
def threshold (bias place : Nat) : Nat :=
  min 26 (max 1 (place - bias))

/-- Thresholds lie among the digits. -/
theorem threshold_bounds (bias place : Nat) :
    1 ≤ threshold bias place ∧ threshold bias place ≤ 26 := by
  unfold threshold
  omega

/-- Reduce a number until it is small, and count the reductions. -/
def settle (value : Nat) : Nat × Nat :=
  if 455 < value then
    let (value, count) := settle (value / 35)
    (value, count + 36)
  else (value, 0)
termination_by value
decreasing_by omega

/-- The bias after a number was written, when there are `count` letters so far. -/
def adapt (value count : Nat) (isFirst : Bool) : Nat :=
  let value := if isFirst then value / 700 else value / 2
  let (value, reduced) := settle (value + value / count)
  reduced + 36 * value / (value + 38)

/-! ## Writing -/

def numberText (bias place value : Nat) : List Char :=
  let limit := threshold bias place
  if value < limit then [digitChar value]
  else
    digitChar (limit + (value - limit) % (36 - limit))
      :: numberText bias (place + 36) ((value - limit) / (36 - limit))
termination_by value
decreasing_by
  have hbounds := threshold_bounds bias place
  have hle := Nat.div_le_self (value - threshold bias place) (36 - threshold bias place)
  omega

/-- State of writing: the digits so far, the places passed over since the last letter, the bias, and
the number of letters told. -/
structure Writing where
  text : List Char
  passed : Nat := 0
  bias : Nat := 72
  told : Nat

/-- Come past a letter of the label while telling the letters with a code point. -/
def pass (plain code : Nat) (state : Writing) (c : Char) : Writing :=
  if c.toNat < code then { state with passed := state.passed + 1 }
  else if c.toNat = code then
    { text := state.text ++ numberText state.bias 36 state.passed
      passed := 0
      bias := adapt state.passed (state.told + 1) (state.told = plain)
      told := state.told + 1 }
  else state

/-- Tell all letters with the given code points, the lowest first.  The second argument is the code
point that comes next. -/
def tell (label : List Char) (plain : Nat) : List Nat → Nat → Writing → Writing
  | [], _, state => state
  | code :: rest, next, state =>
    let state := { state with passed := state.passed + (code - next) * (state.told + 1) }
    let state := label.foldl (pass plain code) state
    tell label plain rest (code + 1) { state with passed := state.passed + 1 }

/-- The label in ASCII letters. -/
def encode (label : List Char) : List Char :=
  let plain := label.filter fun c => c.toNat < 0x80
  let codes := ((label.map Char.toNat).filter (0x80 ≤ ·)).mergeSort.eraseDups
  let told := tell label plain.length codes 0x80 { text := [], told := plain.length }
  plain ++ (if plain.isEmpty then [] else ['-']) ++ told.text

/-! ## Reading -/

/-- The number at the start of a text, and what follows it. -/
def readNumber (bias : Nat) : List Char → Nat → Nat → Nat → Option (Nat × List Char)
  | [], _, _, _ => none
  | c :: rest, place, weight, value =>
    match digitValue? c with
    | none => none
    | some digit =>
      let value := value + digit * weight
      if digit < threshold bias place then some (value, rest)
      else readNumber bias rest (place + 36) (weight * (36 - threshold bias place)) value

/-- Reading a number takes at least one character. -/
theorem length_readNumber {bias : Nat} {text : List Char} {place weight value : Nat}
    {result : Nat × List Char} (h : readNumber bias text place weight value = some result) :
    result.2.length < text.length := by
  induction text generalizing place weight value with
  | nil => cases h
  | cons c rest ih =>
    simp only [readNumber] at h
    split at h
    · cases h
    · split at h
      · cases h
        simp
      · exact Nat.lt_succ_of_lt (ih h)

/-- Insert the letters that a text tells.  The code point and the place of the last one are
given. -/
def insertTold (label : List Char) (code position bias : Nat) (text : List Char) :
    Option (List Char) :=
  if text.isEmpty then some label
  else
    match hnumber : readNumber bias text 36 1 0 with
    | none => none
    | some (passed, rest) =>
      let count := label.length + 1
      let code := code + (position + passed) / count
      let position := (position + passed) % count
      if code.isValidChar then
        insertTold (label.insertIdx position (Char.ofNat code)) code (position + 1)
          (adapt passed count (label.all fun c => c.toNat < 0x80)) rest
      else none
termination_by text.length
decreasing_by exact length_readNumber hnumber

/-- The label that a text in ASCII letters stands for. -/
def decode? (text : List Char) : Option (List Char) :=
  let told := (text.reverse.takeWhile (· ≠ '-')).reverse
  insertTold (text.take (text.length - told.length - 1)) 0x80 0 72 told

end RestartCheck.Host.Punycode
