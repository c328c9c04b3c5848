import Mathlib.Algebra.Group.Nat.Defs
import RestartCheck.Decimal.Numeral

/-!
# Writing integers

An integer is not written when it has more digits than are read back.  So every integer that was
read can be written.

**Results.**
* `integerText?_eq_none_iff`: which integers are not written.
* `naturalValue_toDigits`, `naturalValue_lt`: writing and reading runs of digits.
* `not_isOverlong_of_readNatural`: what was read can be written.
-/

namespace RestartCheck
namespace Decimal

/-! ## Integers -/

/-- The integer has too many digits to be written. -/
def IsOverlong (value : Int) : Prop :=
  10 ^ digitLimit ≤ value.natAbs

instance (value : Int) : Decidable (IsOverlong value) :=
  inferInstanceAs (Decidable (_ ≤ _))

variable {value : Int}

theorem integerText?_eq_none_iff :
    integerText? value = none ↔ IsOverlong value := by
  rw [integerText?, IsOverlong, Nat.pow_eq]
  generalize 10 ^ digitLimit = bound
  split
  · next hfits => exact iff_of_false (by simp) (Nat.not_le.mpr hfits)
  · next hlong => exact iff_of_true rfl (Nat.not_lt.mp hlong)

theorem integerText?_of_not_isOverlong
    (hfits : ¬IsOverlong value) :
    integerText? value = some (toString value) := by
  rw [IsOverlong] at hfits
  rw [integerText?, Nat.pow_eq]
  generalize 10 ^ digitLimit = bound at hfits ⊢
  exact if_pos (Nat.not_le.mp hfits)

/-! ## Runs of digits -/

theorem naturalValue_of_isDigit
    {cs : List Char}
    (hdigits : ∀ c ∈ cs, c.isDigit = true) :
    naturalValue cs = Nat.ofDigitChars 10 cs 0 := by
  have hfold : ∀ value, (cs.filterMap Text.decimalValue?).foldl (fun v d => 10 * v + d) value =
      Nat.ofDigitChars 10 cs value := by
    induction cs with
    | nil => intro value; rfl
    | cons c rest ih =>
        intro value
        rw [List.forall_mem_cons] at hdigits
        have hvalue := Text.isDigit_decimalValue? (Char.isDigit_iff_toNat.mp hdigits.1)
        rw [List.filterMap_cons_some hvalue, List.foldl_cons, Nat.ofDigitChars_cons]
        exact ih hdigits.2 _
  exact hfold 0

/-- A number that is written in decimal is read back. -/
theorem naturalValue_toDigits
    (n : Nat) :
    naturalValue (Nat.toDigits 10 n) = n := by
  rw [naturalValue_of_isDigit fun c => Nat.isDigit_of_mem_toDigits (by decide) (by decide),
    Nat.ofDigitChars_ten_toDigits]

theorem length_toDigits_le_digitLimit
    {n : Nat}
    (hfits : n < 10 ^ digitLimit) :
    (Nat.toDigits 10 n).length ≤ digitLimit :=
  (Nat.length_toDigits_le_iff (by decide) (by decide)).mpr hfits

theorem decimalValue?_lt_ten
    {c : Char} {digit : Nat}
    (hvalue : Text.decimalValue? c = some digit) :
    digit < 10 := by
  obtain ⟨start, hstart, rfl⟩ := Option.map_eq_some_iff.mp hvalue
  have hwithin := List.find?_some hstart
  rw [Bool.and_eq_true, decide_eq_true_eq, decide_eq_true_eq] at hwithin
  omega

/-- A run of digits stands for a number with no more digits. -/
theorem naturalValue_lt
    (cs : List Char) :
    naturalValue cs < 10 ^ cs.length := by
  have hfold : ∀ value, (cs.filterMap Text.decimalValue?).foldl (fun v d => 10 * v + d) value <
      (value + 1) * 10 ^ cs.length := by
    induction cs with
    | nil => intro value; simp
    | cons c rest ih =>
        intro value
        have hpower : (value + 1) * 10 ^ (c :: rest).length =
            (10 * value + 10) * 10 ^ rest.length := by
          rw [List.length_cons, Nat.pow_succ, Nat.mul_comm _ 10, ← Nat.mul_assoc]
          congr 1
          omega
        rw [hpower]
        cases hvalue : Text.decimalValue? c with
        | none =>
            rw [List.filterMap_cons_none hvalue]
            exact Nat.lt_of_lt_of_le (ih value) (Nat.mul_le_mul_right _ (by omega))
        | some digit =>
            have hdigit := decimalValue?_lt_ten hvalue
            rw [List.filterMap_cons_some hvalue, List.foldl_cons]
            exact Nat.lt_of_lt_of_le (ih _) (Nat.mul_le_mul_right _ (by omega))
  have hzero := hfold 0
  rwa [Nat.zero_add, Nat.one_mul] at hzero

/-- What was read can be written, and so can its opposite. -/
theorem not_isOverlong_of_readNatural
    {cs : List Char} {n : Nat}
    (hread : readNatural cs = .ok n)
    (hvalue : value.natAbs = n) :
    ¬IsOverlong value := by
  obtain ⟨_, _, hlength, rfl⟩ := readNatural_eq_ok_iff.mp hread
  rw [IsOverlong, hvalue, Nat.not_le]
  exact Nat.lt_of_lt_of_le (naturalValue_lt cs) (Nat.pow_le_pow_right (by decide) hlength)

end Decimal
end RestartCheck
