import RestartCheck.Proofs.Json.Reading

/-!
# How values other than texts are shown

Every value can be shown as running text, and the text may then be read as a word.  A value that is
no text itself is shown as one of a few constants, or with a digit, a sign or a bracket in front.
These marks have no case, so they still stand in front when the text is put in lower case.

**Results.**
* `exists_toList_lower`: a text keeps a first character without case.
* `display_mem_constants_or_opensWithMark`: how a value that is no text is shown.
-/

namespace RestartCheck

namespace Text

/-- The capital letters of ASCII are the only ones before the letters with accents. -/
theorem lowerChar_eq_self
    {c : Char}
    (hcaseless : c.toNat < 0x41 ∨ 0x5a < c.toNat ∧ c.toNat < 0xc0) :
    lowerChar c = [c] := by
  have hruns : ∀ run ∈ lowerRuns,
      run.first = 0x41 ∧ run.last = 0x5a ∨ 0xc0 ≤ run.first := by
    decide +kernel
  have hnone : lowerRuns.find? (·.has c.toNat) = none := by
    rw [List.find?_eq_none]
    intro run hmem hhas
    simp only [CaseRun.has, Bool.and_eq_true, decide_eq_true_eq] at hhas
    rcases hruns run hmem with ⟨hfirst, hlast⟩ | hfirst
    · omega
    · omega
  have hdotted : c.toNat ≠ 0x130 := by
    omega
  rw [lowerChar, if_neg hdotted, hnone]

/-- A text keeps a first character without case. -/
theorem exists_toList_lower
    {text : String} {c : Char} {rest : List Char}
    (htext : text.toList = c :: rest)
    (hcaseless : c.toNat < 0x41 ∨ 0x5a < c.toNat ∧ c.toNat < 0xc0) :
    ∃ others, (lower text).toList = c :: others := by
  have hsigma : c.toNat ≠ 0x3a3 := by
    omega
  rw [lower, String.toList_ofList, htext, lowerFrom]
  simp only [if_neg hsigma, lowerChar_eq_self hcaseless]
  exact ⟨_, rfl⟩

end Text

namespace Json

open Decimal

/-- The marks with which numbers, lists and objects begin. -/
def isMark (c : Char) : Bool :=
  c.isDigit || c == '-' || c == '[' || c == '\x7b'

/-- The text begins with a mark. -/
def OpensWithMark (text : String) : Prop :=
  ∃ c rest, text.toList = c :: rest ∧ isMark c = true

theorem caseless_of_isMark
    {c : Char}
    (hmark : isMark c = true) :
    c.toNat < 0x41 ∨ 0x5a < c.toNat ∧ c.toNat < 0xc0 := by
  simp only [isMark, Bool.or_eq_true, beq_iff_eq] at hmark
  rcases hmark with ((hdigit | rfl) | rfl) | rfl
  · left
    have hlast : '9'.toNat = 0x39 := rfl
    have hrange := Char.isDigit_iff_toNat.mp hdigit
    omega
  · decide
  · decide
  · decide

theorem OpensWithMark.lower
    {text : String}
    (hopens : OpensWithMark text) :
    OpensWithMark (Text.lower text) := by
  obtain ⟨c, rest, htext, hmark⟩ := hopens
  obtain ⟨others, hlower⟩ := Text.exists_toList_lower htext (caseless_of_isMark hmark)
  exact ⟨c, others, hlower, hmark⟩

theorem OpensWithMark.append
    {front : String}
    (hopens : OpensWithMark front)
    (back : String) :
    OpensWithMark (front ++ back) := by
  obtain ⟨c, rest, hfront, hmark⟩ := hopens
  exact ⟨c, rest ++ back.toList, by rw [String.toList_append, hfront]; rfl, hmark⟩

/-- The first digits of a number, as many as are wanted. -/
theorem opensWithMark_digits
    (n count : Nat)
    (hcount : 0 < count)
    (more : List Char) :
    OpensWithMark (String.ofList ((Nat.toDigits 10 n).take count ++ more)) := by
  obtain ⟨c, rest, hdigits⟩ := List.exists_cons_of_ne_nil (@Nat.toDigits_ne_nil n 10)
  obtain ⟨count, rfl⟩ := Nat.exists_eq_add_one.mpr hcount
  refine ⟨c, rest.take count ++ more, by simp [hdigits], ?_⟩
  have hdigit : c.isDigit = true :=
    Nat.isDigit_of_mem_toDigits (by decide) (by decide) (hdigits ▸ List.mem_cons_self)
  simp [isMark, hdigit]

theorem opensWithMark_render
    (layout : Layout)
    (digits : Nat)
    (place : Int) :
    OpensWithMark (layout.render digits place) := by
  have hall : ∀ more, OpensWithMark (String.ofList (Nat.toDigits 10 digits ++ more)) := by
    intro more
    have hwhole := opensWithMark_digits digits _ (@Nat.length_toDigits_pos 10 digits) more
    rwa [List.take_length] at hwhole
  have hsome : ∀ count, 0 < count →
      OpensWithMark (String.ofList ((Nat.toDigits 10 digits).take count)) := by
    intro count hcount
    have hfirst := opensWithMark_digits digits count hcount []
    rwa [List.append_nil] at hfirst
  unfold Layout.render
  simp only
  split
  · split
    · exact OpensWithMark.append ⟨'0', ['.'], rfl, rfl⟩ _
    · next hpoint =>
        split
        · exact (hall _).append _
        · exact ((hsome _ (by omega)).append _).append _
  · exact ((((hsome 1 Nat.one_pos).append _).append _).append _).append _

/-- The constants, apart from null, that begin with a letter. -/
def constants : List String := ["True", "False", "nan", "inf"]

theorem floatText_mem_constants_or_opensWithMark
    (value : Float) :
    floatText value ∈ constants ∨ OpensWithMark (floatText value) := by
  have hsigned : ∀ negative text, text ∈ constants ∨ OpensWithMark text →
      signed negative text ∈ constants ∨ OpensWithMark (signed negative text) := by
    intro negative text htext
    cases negative with
    | false => exact htext
    | true => exact Or.inr (OpensWithMark.append ⟨'-', [], rfl, rfl⟩ text)
  unfold floatText
  split
  · exact Or.inl (by decide)
  · exact hsigned _ _ (Or.inl (by decide))
  · split
    · exact hsigned _ _ (Or.inr ⟨'0', ['.', '0'], rfl, rfl⟩)
    · exact hsigned _ _ (Or.inr (opensWithMark_render _ _ _))

theorem opensWithMark_toString
    (value : Int) :
    OpensWithMark (toString value) := by
  rw [Int.toString_eq_repr, Int.repr_eq_if]
  have hdigits : ∀ n : Nat, OpensWithMark n.repr := by
    intro n
    have hwhole := opensWithMark_digits n _ (@Nat.length_toDigits_pos 10 n) []
    rwa [List.take_length, List.append_nil, ← Nat.toList_repr, String.ofList_toList] at hwhole
  split
  · exact hdigits _
  · exact OpensWithMark.append ⟨'-', [], rfl, rfl⟩ _

/-- A value that is neither null nor a text is shown as a constant, or with a mark in front. -/
theorem display_mem_constants_or_opensWithMark
    {value : Json}
    (hnull : value ≠ .null)
    (htext : ∀ text, value ≠ .string text) :
    value.display ∈ constants ∨ OpensWithMark value.display := by
  cases value with
  | null => exact absurd rfl hnull
  | bool flag => cases flag <;> exact Or.inl (by decide)
  | int number => exact Or.inr (opensWithMark_toString number)
  | float number => exact floatText_mem_constants_or_opensWithMark number
  | string text => exact absurd rfl (htext text)
  | array items =>
      exact Or.inr (OpensWithMark.append (OpensWithMark.append ⟨'[', [], rfl, rfl⟩ _) _)
  | object members =>
      exact Or.inr (OpensWithMark.append (OpensWithMark.append ⟨'\x7b', [], rfl, rfl⟩ _) _)

end Json
end RestartCheck
