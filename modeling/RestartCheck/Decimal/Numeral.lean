import RestartCheck.Text.DecimalDigit
import RestartCheck.Text.Quoted

/-!
# Reading natural numbers

A numeral is a run of decimal digits, which may come from different scripts.  Runs of more than
4300 digits are refused, and so are characters that merely look like digits.

**Results.**
* `readNatural_eq_ok_iff`: what is accepted, and the value read.
-/

namespace RestartCheck.Decimal

/-- The longest run of digits that is read as a number. -/
def digitLimit : Nat := 4300

/-- Why a run of characters is not read as a number. -/
inductive NumeralFault
  | notDecimal (text : List Char)
  | tooLong (digits : Nat)
deriving DecidableEq, Repr

/-- The quoted text is cut after two hundred characters. -/
def NumeralFault.message : NumeralFault → String
  | .notDecimal text =>
    "invalid literal for int() with base 10: "
      ++ String.ofList ((Text.quotedChars text).take 200)
  | .tooLong digits =>
    "Exceeds the limit (4300 digits) for integer string conversion: value has "
      ++ toString digits
      ++ " digits; use sys.set_int_max_str_digits() to increase the limit"

/-- The number with the given digits, most significant first. -/
def ofDigits (digits : List Nat) : Nat :=
  digits.foldl (fun value digit => 10 * value + digit) 0

/-- The value of a run of decimal digits of any script. -/
def naturalValue (cs : List Char) : Nat :=
  ofDigits (cs.filterMap Text.decimalValue?)

/-- Read a run of digits.  The characters before the first foreign one are counted first. -/
def readNatural (cs : List Char) : Except NumeralFault Nat :=
  let digits := (cs.takeWhile Text.isDecimalDigit).length
  if digitLimit < digits then .error (.tooLong digits)
  else if cs.isEmpty || !cs.all Text.isDecimalDigit then .error (.notDecimal cs)
  else .ok (naturalValue cs)

/-! ## Writing integers -/

/-- The decimal text of an integer, unless it has more digits than are read back. -/
def integerText? (value : Int) : Option String :=
  if value.natAbs < Nat.pow 10 digitLimit then some (toString value) else none

/-- The wording for an integer with too many digits to be written. -/
def unwrittenMessage : String :=
  "Exceeds the limit (4300 digits) for integer string conversion; "
    ++ "use sys.set_int_max_str_digits() to increase the limit"

theorem takeWhile_of_all {cs : List Char} (h : ∀ c ∈ cs, Text.isDecimalDigit c = true) :
    cs.takeWhile Text.isDecimalDigit = cs := by
  induction cs with
  | nil => rfl
  | cons c rest ih =>
    have hc := h c (by simp)
    have hrest := ih fun d hd => h d (by simp [hd])
    simp [hc, hrest]

/-- What is read as a natural number: decimal digits, at least one and no more than the limit. -/
theorem readNatural_eq_ok_iff {cs : List Char} {n : Nat} :
    readNatural cs = .ok n ↔
      cs ≠ [] ∧ (∀ c ∈ cs, Text.isDecimalDigit c = true) ∧ cs.length ≤ digitLimit ∧
        n = naturalValue cs := by
  by_cases hall : ∀ c ∈ cs, Text.isDecimalDigit c = true
  · have hall' : cs.all Text.isDecimalDigit = true := by simpa using hall
    have hdef : readNatural cs =
        if digitLimit < cs.length then .error (.tooLong cs.length)
        else if cs.isEmpty then .error (.notDecimal cs) else .ok (naturalValue cs) := by
      simp [readNatural, takeWhile_of_all hall, hall']
    rw [hdef]
    by_cases hlen : digitLimit < cs.length
    · simp [hlen, Nat.not_le.2 hlen]
    · cases cs with
      | nil => simp
      | cons c rest =>
        rw [if_neg hlen, if_neg (by simp)]
        simp only [Except.ok.injEq, ne_eq, reduceCtorEq, not_false_eq_true, true_and]
        exact ⟨fun h => ⟨hall, Nat.not_lt.1 hlen, h.symm⟩, fun h => h.2.2.symm⟩
  · have hall' : cs.all Text.isDecimalDigit = false := by
      simpa using hall
    simp only [readNatural, hall', Bool.not_false, Bool.or_true, if_true]
    constructor
    · intro h; split at h <;> cases h
    · rintro ⟨_, h, _⟩; exact absurd h hall

end RestartCheck.Decimal
