import Mathlib
import RestartCheck.Version.Parser

/-!
# The grammar of version texts

Apart from white space around it, a version text is an optional mark, two components with a dot in
between, and a tail.  A component is a run of decimal digits that is as long as possible.  The tail
is an optional patch component followed by an optional qualifier.

Besides these, one more kind of text is taken apart: behind the minor component there are a dot and
digits, but what follows the digits is no qualifier.  When the dot, the digits and what follows
would make a qualifier together, they are taken for one, and the text counts as having no patch
component.

**Results.**
* `qualifierAtEnd?_eq_some_iff`: what is read as an optional qualifier.
* `patchAndQualifier?_eq_some_iff`: what is read behind the minor component.
* `ofChars?_eq_some_iff`: a text is taken apart exactly when its tail is of the grammar or misread.
-/

namespace RestartCheck
namespace Version

/-! ## Runs of characters -/

/-- The text does not go on with a character of the class. -/
def Stops
    (test : Char → Bool)
    (text : List Char) : Prop :=
  ∀ c ∈ text.head?, test c = false

section Runs

variable {test : Char → Bool} {front back : List Char}

theorem takeWhile_append_of_stops
    (hfront : ∀ c ∈ front, test c = true)
    (hback : Stops test back) :
    (front ++ back).takeWhile test = front := by
  rw [List.takeWhile_append_of_pos hfront]
  cases back with
  | nil => simp
  | cons c rest => simp [hback c rfl]

theorem dropWhile_append_of_stops
    (hfront : ∀ c ∈ front, test c = true)
    (hback : Stops test back) :
    (front ++ back).dropWhile test = back := by
  rw [List.dropWhile_append_of_pos hfront]
  cases back with
  | nil => simp
  | cons c rest => simp [hback c rfl]

theorem stops_dropWhile
    (test : Char → Bool)
    (text : List Char) :
    Stops test (text.dropWhile test) := by
  intro c hc
  have hhead := List.head?_dropWhile_not test text
  rwa [Option.mem_def.mp hc] at hhead

/-- Two ways of cutting a text where a class of characters ends are the same. -/
theorem eq_of_append_eq_of_stops
    {front' back' : List Char}
    (heq : front ++ back = front' ++ back')
    (hfront : ∀ c ∈ front, test c = true)
    (hback : Stops test back)
    (hfront' : ∀ c ∈ front', test c = true)
    (hback' : Stops test back') :
    front = front' ∧ back = back' := by
  have htake := congrArg (List.takeWhile test) heq
  have hdrop := congrArg (List.dropWhile test) heq
  rw [takeWhile_append_of_stops hfront hback, takeWhile_append_of_stops hfront' hback'] at htake
  rw [dropWhile_append_of_stops hfront hback, dropWhile_append_of_stops hfront' hback'] at hdrop
  exact ⟨htake, hdrop⟩

theorem Stops.append_of_forall
    (hfront : Stops test front)
    (hback : ∀ c ∈ back, test c = false) :
    Stops test (front ++ back) := by
  intro c hc
  cases front with
  | nil => exact hback c (List.mem_of_mem_head? hc)
  | cons first rest => exact hfront c hc

theorem Stops.of_append
    (happend : Stops test (front ++ back)) :
    Stops test front := by
  intro c hc
  cases front with
  | nil => cases hc
  | cons first rest => exact happend c hc

end Runs

/-! ## Classes of characters -/

theorem not_isBlank_of_isDecimalDigit
    {c : Char}
    (hdigit : Text.isDecimalDigit c = true) :
    Text.isBlank c = false := by
  have hapart : ∀ start ∈ Text.decimalRuns, ∀ range ∈ Text.blankRanges,
      range.2 < start ∨ start + 10 ≤ range.1 := by
    decide
  rw [Text.isDecimalDigit, Text.decimalValue?, Option.isSome_map, List.find?_isSome] at hdigit
  obtain ⟨start, hstart, hwithin⟩ := hdigit
  rw [Bool.and_eq_true, decide_eq_true_eq, decide_eq_true_eq] at hwithin
  rw [Bool.eq_false_iff]
  intro hblank
  obtain ⟨range, hrange, hlow, hhigh⟩ := Text.CharRanges.has_iff.mp hblank
  rcases hapart start hstart range hrange with hbelow | habove
  · omega
  · omega

theorem isQualifierChar_iff
    {c : Char} :
    isQualifierChar c = true ↔ (c.isAlpha = true ∨ c.isDigit = true) ∨ c = '.' := by
  simp [isQualifierChar, Char.isAlphanum]

theorem toNat_of_isQualifierChar
    {c : Char}
    (hqualifier : isQualifierChar c = true) :
    c = '.' ∨ 0x30 ≤ c.toNat ∧ c.toNat ≤ 0x39 ∨ 0x41 ≤ c.toNat ∧ c.toNat ≤ 0x5a ∨
      0x61 ≤ c.toNat ∧ c.toNat ≤ 0x7a := by
  simp only [isQualifierChar, Char.isAlphanum, Char.isAlpha, Char.isUpper, Char.isLower,
    Char.isDigit, Bool.or_eq_true, Bool.and_eq_true, decide_eq_true_eq, ge_iff_le,
    UInt32.le_iff_toNat_le] at hqualifier
  rcases hqualifier with ((hupper | hlower) | hdigit) | rfl
  · exact Or.inr (Or.inr (Or.inl hupper))
  · exact Or.inr (Or.inr (Or.inr hlower))
  · exact Or.inr (Or.inl hdigit)
  · exact Or.inl rfl

theorem not_isBlank_of_isQualifierChar
    {c : Char}
    (hqualifier : isQualifierChar c = true) :
    Text.isBlank c = false := by
  rw [Bool.eq_false_iff]
  intro hblank
  obtain ⟨range, hrange, hlow, hhigh⟩ := Text.CharRanges.has_iff.mp hblank
  have hapart : ∀ range ∈ Text.blankRanges, range.2 ≤ 0x20 ∨ 0x85 ≤ range.1 := by
    decide
  have hdot : '.'.toNat = 0x2e := rfl
  rcases toNat_of_isQualifierChar hqualifier with rfl | hclass
  · rcases hapart range hrange with hbelow | habove
    · omega
    · omega
  · rcases hapart range hrange with hbelow | habove
    · omega
    · omega

/-! ## The grammar -/

/-- A component is written with at least one digit. -/
structure IsRun (digits : List Char) : Prop where
  nonempty : digits ≠ []
  digits : ∀ c ∈ digits, Text.isDecimalDigit c = true

/-- The text is a separator and a qualifier, or nothing. -/
inductive IsQualifier : List Char → Option (List Char) → Prop
  | none : IsQualifier [] none
  | some
      {separator : Char} {qualifier : List Char}
      (hseparator : separator = '-' ∨ separator = '.')
      (hnonempty : qualifier ≠ [])
      (hchars : ∀ c ∈ qualifier, isQualifierChar c = true) :
      IsQualifier (separator :: qualifier) (some qualifier)

/-- The text begins with a dot and a digit. -/
def OpensPatch (text : List Char) : Prop :=
  ∃ c rest, text = '.' :: c :: rest ∧ Text.isDecimalDigit c = true

/-- The text is an optional patch component followed by an optional qualifier.  A dot and a digit in
front always begin the patch component, and all digits that follow belong to it. -/
inductive IsTail : List Char → Option (List Char) → Option (List Char) → Prop
  | patch
      {digits rest : List Char} {qualifier : Option (List Char)}
      (hrun : IsRun digits)
      (hqualifier : IsQualifier rest qualifier) :
      IsTail ('.' :: (digits ++ rest)) (some digits) qualifier
  | bare
      {text : List Char} {qualifier : Option (List Char)}
      (hopens : ¬OpensPatch text)
      (hqualifier : IsQualifier text qualifier) :
      IsTail text none qualifier

/-- Digits behind a dot, directly followed by a letter, or by one more dot that is the last
character. -/
structure IsMisread (text : List Char) : Prop where
  shape : ∃ digits c rest,
    text = '.' :: (digits ++ c :: rest) ∧ IsRun digits ∧
    (c.isAlpha = true ∨ c = '.' ∧ rest = [])
  chars : ∀ c ∈ text, isQualifierChar c = true

/-- Apart from white space around it, the text is an optional mark, two components with a dot in
between, and the rest. -/
structure Splits (text major minor rest : List Char) : Prop where
  parts : ∃ front mark back,
    text = front ++ (mark ++ (major ++ '.' :: (minor ++ (rest ++ back)))) ∧
    (∀ c ∈ front, Text.isBlank c = true) ∧
    (mark = [] ∨ mark = ['v']) ∧
    (∀ c ∈ back, Text.isBlank c = true)
  major_run : IsRun major
  minor_run : IsRun minor
  stops : Stops Text.isDecimalDigit rest
  trimmed : ∀ c ∈ rest.getLast?, Text.isBlank c = false

/-! ## Qualifiers -/

section Qualifiers

variable {text rest back : List Char} {qualifier : Option (List Char)}

theorem isBlank_dash : Text.isBlank '-' = false := by
  decide

theorem isBlank_dot : Text.isBlank '.' = false := by
  decide

theorem isDecimalDigit_dash : Text.isDecimalDigit '-' = false := by
  decide

theorem isDecimalDigit_dot : Text.isDecimalDigit '.' = false := by
  decide

theorem stops_dot :
    Stops Text.isDecimalDigit ('.' :: rest) := by
  rintro _ ⟨⟩
  exact isDecimalDigit_dot

theorem IsQualifier.not_isBlank
    (hqualifier : IsQualifier text qualifier) :
    ∀ c ∈ text, Text.isBlank c = false := by
  cases hqualifier with
  | none => exact List.forall_mem_nil _
  | some hseparator _ hchars =>
      rw [List.forall_mem_cons]
      refine ⟨?_, fun c hmem => not_isBlank_of_isQualifierChar (hchars c hmem)⟩
      rcases hseparator with rfl | rfl
      · exact isBlank_dash
      · exact isBlank_dot

theorem IsQualifier.stops
    (hqualifier : IsQualifier text qualifier) :
    Stops Text.isDecimalDigit text := by
  intro c hc
  cases hqualifier with
  | none => cases hc
  | some hseparator _ _ =>
      cases hc
      rcases hseparator with rfl | rfl
      · exact isDecimalDigit_dash
      · exact isDecimalDigit_dot

/-- No qualifier character is white space, so a qualifier ends where the white space begins. -/
theorem stops_isQualifierChar_of_blank
    (hback : ∀ c ∈ back, Text.isBlank c = true) :
    Stops isQualifierChar back := by
  intro c hc
  rw [Bool.eq_false_iff]
  intro hqualifier
  have hblank := hback c (List.mem_of_mem_head? hc)
  rw [not_isBlank_of_isQualifierChar hqualifier] at hblank
  cases hblank

/-- What is read as an optional qualifier, with white space after it. -/
theorem qualifierAtEnd?_eq_some_iff :
    qualifierAtEnd? text = some qualifier ↔
      ∃ front back,
        text = front ++ back ∧ (∀ c ∈ back, Text.isBlank c = true) ∧
        IsQualifier front qualifier := by
  constructor
  · intro hread
    have hend : ∀ {found : Option (List Char)},
        (if text.all Text.isBlank then some none else none) = some found →
          ∃ front back, text = front ++ back ∧ (∀ c ∈ back, Text.isBlank c = true) ∧
            IsQualifier front found := by
      intro found hfound
      split at hfound
      · next hblank =>
          cases hfound
          exact ⟨[], text, rfl, List.all_eq_true.mp hblank, .none⟩
      · cases hfound
    unfold qualifierAtEnd? at hread
    simp only at hread
    split at hread
    · next c rest =>
        split at hread
        · next hqualifier =>
            obtain ⟨hseparator, hnonempty, hblank⟩ := hqualifier
            cases hread
            refine ⟨c :: rest.takeWhile isQualifierChar, rest.dropWhile isQualifierChar, ?_,
              List.all_eq_true.mp hblank, .some hseparator ?_ fun _ => List.mem_takeWhile_imp⟩
            · rw [List.cons_append, List.takeWhile_append_dropWhile]
            · simpa using hnonempty
        · exact hend hread
    · exact hend hread
  · rintro ⟨front, back, rfl, hback, hqualifier⟩
    cases hqualifier with
    | none =>
        have hall : back.all Text.isBlank = true := List.all_eq_true.mpr hback
        unfold qualifierAtEnd?
        cases back with
        | nil => rfl
        | cons c rest =>
            have hseparator : ¬(c = '-' ∨ c = '.') := by
              rintro (rfl | rfl)
              · exact absurd (hback _ List.mem_cons_self) (by decide)
              · exact absurd (hback _ List.mem_cons_self) (by decide)
            simp only [List.nil_append, hall, if_true, hseparator, false_and, if_false]
    | some hseparator hnonempty hchars =>
        have hstops := stops_isQualifierChar_of_blank hback
        have hall : back.all Text.isBlank = true := List.all_eq_true.mpr hback
        unfold qualifierAtEnd?
        rw [List.cons_append]
        simp only [takeWhile_append_of_stops hchars hstops,
          dropWhile_append_of_stops hchars hstops, hall, List.isEmpty_eq_false_iff.mpr hnonempty,
          hseparator, Bool.not_false, true_and, if_true]

end Qualifiers

/-! ## Tails -/

section Tails

variable {text back : List Char} {patch qualifier : Option (List Char)}

theorem isAlpha_or_eq_dot_of_isQualifierChar
    {c : Char}
    (hqualifier : isQualifierChar c = true)
    (hdigit : Text.isDecimalDigit c = false) :
    c.isAlpha = true ∨ c = '.' := by
  rcases isQualifierChar_iff.mp hqualifier with (halpha | hascii) | hdot
  · exact Or.inl halpha
  · have hvalue := Text.isDigit_decimalValue? (Char.isDigit_iff_toNat.mp hascii)
    rw [Text.isDecimalDigit, hvalue] at hdigit
    cases hdigit
  · exact Or.inr hdot

theorem not_isDecimalDigit_of_isAlpha
    {c : Char}
    (halpha : c.isAlpha = true) :
    Text.isDecimalDigit c = false := by
  have hapart : ∀ start ∈ Text.decimalRuns, start + 10 ≤ 0x41 ∨ 0x7a < start := by
    decide
  rw [Bool.eq_false_iff]
  intro hdigit
  rw [Text.isDecimalDigit, Text.decimalValue?, Option.isSome_map, List.find?_isSome] at hdigit
  obtain ⟨start, hstart, hwithin⟩ := hdigit
  rw [Bool.and_eq_true, decide_eq_true_eq, decide_eq_true_eq] at hwithin
  have hletter : 0x41 ≤ c.toNat ∧ c.toNat ≤ 0x7a := by
    simp only [Char.isAlpha, Char.isUpper, Char.isLower, Bool.or_eq_true, Bool.and_eq_true,
      decide_eq_true_eq, ge_iff_le, UInt32.le_iff_toNat_le] at halpha
    have hvalue : c.toNat = c.val.toNat := rfl
    have hA : 'A'.val.toNat = 0x41 := rfl
    have hZ : 'Z'.val.toNat = 0x5a := rfl
    have ha : 'a'.val.toNat = 0x61 := rfl
    have hz : 'z'.val.toNat = 0x7a := rfl
    omega
  rcases hapart start hstart with hbelow | habove
  · omega
  · omega

theorem IsTail.not_isBlank
    (htail : IsTail text patch qualifier) :
    ∀ c ∈ text, Text.isBlank c = false := by
  cases htail with
  | patch hrun hqualifier =>
      rw [List.forall_mem_cons, List.forall_mem_append]
      exact ⟨isBlank_dot, fun c hmem => not_isBlank_of_isDecimalDigit (hrun.digits c hmem),
        hqualifier.not_isBlank⟩
  | bare _ hqualifier => exact hqualifier.not_isBlank

theorem IsMisread.opensPatch
    (hmisread : IsMisread text) :
    OpensPatch text := by
  obtain ⟨digits, c, rest, rfl, hrun, _⟩ := hmisread.shape
  obtain ⟨first, others, rfl⟩ := List.exists_cons_of_ne_nil hrun.nonempty
  exact ⟨first, others ++ c :: rest, rfl, hrun.digits first List.mem_cons_self⟩

theorem IsMisread.not_isBlank
    (hmisread : IsMisread text) :
    ∀ c ∈ text, Text.isBlank c = false :=
  fun c hmem => not_isBlank_of_isQualifierChar (hmisread.chars c hmem)

/-- What is read as a patch component when the text begins with a dot and digits. -/
theorem patchAndQualifier?_of_run
    {digits rest : List Char}
    (hrun : IsRun digits)
    (hstops : Stops Text.isDecimalDigit rest) :
    patchAndQualifier? ('.' :: (digits ++ rest)) =
      match qualifierAtEnd? rest with
      | some qualifier => some (some digits, qualifier)
      | none => (qualifierAtEnd? ('.' :: (digits ++ rest))).map (none, ·) := by
  have hnonempty : digits.isEmpty = false := List.isEmpty_eq_false_iff.mpr hrun.nonempty
  simp only [patchAndQualifier?, takeWhile_append_of_stops hrun.digits hstops,
    dropWhile_append_of_stops hrun.digits hstops, hnonempty, Bool.false_eq_true, if_false]
  cases qualifierAtEnd? rest with
  | none => rfl
  | some qualifier => rfl

theorem patchAndQualifier?_of_not_opensPatch
    (hopens : ¬OpensPatch text) :
    patchAndQualifier? text = (qualifierAtEnd? text).map (none, ·) := by
  unfold patchAndQualifier?
  simp only
  split
  · next parts hparts =>
      split at hparts
      · next rest =>
          split at hparts
          · cases hparts
          · next hnonempty =>
              cases rest with
              | nil => exact absurd rfl hnonempty
              | cons c others =>
                  refine absurd ⟨c, others, rfl, ?_⟩ hopens
                  by_contra hdigit
                  rw [List.takeWhile_cons_of_neg hdigit] at hnonempty
                  exact hnonempty rfl
      · cases hparts
  · rfl

/-- A text that begins with a dot and a digit goes on with a run of digits. -/
theorem exists_run_of_opensPatch
    (hopens : OpensPatch text) :
    ∃ digits rest,
      text = '.' :: (digits ++ rest) ∧ IsRun digits ∧ Stops Text.isDecimalDigit rest := by
  obtain ⟨c, others, rfl, hdigit⟩ := hopens
  refine ⟨(c :: others).takeWhile Text.isDecimalDigit, (c :: others).dropWhile Text.isDecimalDigit,
    ?_, ⟨?_, fun _ => List.mem_takeWhile_imp⟩, stops_dropWhile _ _⟩
  · rw [List.takeWhile_append_dropWhile]
  · rw [List.takeWhile_cons_of_pos hdigit]
    exact List.cons_ne_nil _ _

/-- White space after the digits does not prolong them. -/
theorem stops_append_blank
    (hstops : Stops Text.isDecimalDigit text)
    (hback : ∀ c ∈ back, Text.isBlank c = true) :
    Stops Text.isDecimalDigit (text ++ back) := by
  refine hstops.append_of_forall fun c hmem => ?_
  rw [Bool.eq_false_iff]
  intro hdigit
  have hblank := hback c hmem
  rw [not_isBlank_of_isDecimalDigit hdigit] at hblank
  cases hblank

/-- A text without white space is told from the white space behind it. -/
theorem eq_of_append_blank_eq
    {text' back' : List Char}
    (heq : text ++ back = text' ++ back')
    (htext : ∀ c ∈ text, Text.isBlank c = false)
    (hback : ∀ c ∈ back, Text.isBlank c = true)
    (htext' : ∀ c ∈ text', Text.isBlank c = false)
    (hback' : ∀ c ∈ back', Text.isBlank c = true) :
    text = text' ∧ back = back' := by
  have hstops : ∀ {rest : List Char}, (∀ c ∈ rest, Text.isBlank c = true) →
      Stops (fun c => !Text.isBlank c) rest := by
    intro rest hrest c hc
    simp [hrest c (List.mem_of_mem_head? hc)]
  exact eq_of_append_eq_of_stops heq (fun c hmem => by simp [htext c hmem]) (hstops hback)
    (fun c hmem => by simp [htext' c hmem]) (hstops hback')

/-- When the digits are no patch component, they are the beginning of a qualifier. -/
theorem isMisread_of_run
    {digits rest : List Char}
    (hrun : IsRun digits)
    (hstops : Stops Text.isDecimalDigit rest)
    (hunread : qualifierAtEnd? rest = none)
    (hread : qualifierAtEnd? ('.' :: (digits ++ rest)) = some qualifier) :
    ∃ front back,
      '.' :: (digits ++ rest) = front ++ back ∧ (∀ c ∈ back, Text.isBlank c = true) ∧
      IsMisread front ∧ qualifier = some front.tail := by
  obtain ⟨front, back, hsplit, hback, hqualifier⟩ := qualifierAtEnd?_eq_some_iff.mp hread
  have hnone : ∀ core end', rest = core ++ end' → (∀ c ∈ end', Text.isBlank c = true) →
      ∀ found, ¬IsQualifier core found := by
    intro core end' hrest hend found hfound
    have hsome := qualifierAtEnd?_eq_some_iff.mpr ⟨core, end', hrest, hend, hfound⟩
    rw [hunread] at hsome
    cases hsome
  have hchars : ∀ c ∈ front, isQualifierChar c = true := by
    cases hqualifier with
    | none => exact List.forall_mem_nil _
    | some _ _ hchars =>
        obtain ⟨rfl, _⟩ := List.cons.inj hsplit
        exact List.forall_mem_cons.mpr ⟨by decide, hchars⟩
  refine ⟨front, back, hsplit, hback, ?_⟩
  cases hqualifier with
  | none =>
      have hblank := hback '.' (by rw [← List.nil_append back, ← hsplit]; exact List.mem_cons_self)
      rw [isBlank_dot] at hblank
      cases hblank
  | @some separator inner _ _ _ =>
      obtain ⟨rfl, hinner⟩ := List.cons.inj hsplit
      rcases List.append_eq_append_iff.mp hinner with ⟨more, rfl, hrest⟩ | ⟨more, rfl, hmore⟩
      · cases more with
        | nil => exact absurd .none (hnone [] rest rfl (hrest ▸ hback) _)
        | cons c others =>
            refine ⟨⟨⟨digits, c, others, rfl, hrun, ?_⟩, hchars⟩, rfl⟩
            have hdigit : Text.isDecimalDigit c = false := hstops c (by rw [hrest]; rfl)
            refine (isAlpha_or_eq_dot_of_isQualifierChar (hchars c (by simp)) hdigit).imp_right ?_
            rintro rfl
            refine ⟨rfl, ?_⟩
            by_contra hnonempty
            exact hnone _ _ hrest hback _ (.some (Or.inr rfl) hnonempty fun d hmem =>
              hchars d (by simp [hmem]))
      · cases more with
        | nil => exact absurd .none (hnone [] rest rfl (by simpa [hmore] using hback) _)
        | cons c others =>
            have hblank := hback c (hmore ▸ List.mem_cons_self)
            rw [not_isBlank_of_isDecimalDigit (hrun.digits c (by simp))] at hblank
            cases hblank

/-- What is misread is no patch component with a qualifier behind it. -/
theorem IsMisread.patchAndQualifier?_eq
    (hmisread : IsMisread text)
    (hback : ∀ c ∈ back, Text.isBlank c = true) :
    patchAndQualifier? (text ++ back) = some (none, some text.tail) := by
  obtain ⟨digits, c, rest, rfl, hrun, hlast⟩ := hmisread.shape
  have hchars := hmisread.chars
  rw [List.forall_mem_cons, List.forall_mem_append] at hchars
  have hdigit : Text.isDecimalDigit c = false := by
    rcases hlast with halpha | ⟨rfl, _⟩
    · exact not_isDecimalDigit_of_isAlpha halpha
    · exact isDecimalDigit_dot
  have hstops : Stops Text.isDecimalDigit (c :: rest ++ back) := by
    rintro _ ⟨⟩
    exact hdigit
  have hunread : qualifierAtEnd? (c :: rest ++ back) = none := by
    rw [Option.eq_none_iff_forall_ne_some]
    intro found hfound
    obtain ⟨front, back', hsplit, hback', hqualifier⟩ := qualifierAtEnd?_eq_some_iff.mp hfound
    obtain ⟨rfl, _⟩ := eq_of_append_blank_eq hsplit
      (fun d hmem => not_isBlank_of_isQualifierChar (hchars.2.2 d hmem)) hback
      hqualifier.not_isBlank hback'
    cases hqualifier with
    | some hseparator hnonempty _ =>
        rcases hlast with halpha | ⟨_, hempty⟩
        · rcases hseparator with rfl | rfl
          · exact absurd halpha (by decide)
          · exact absurd halpha (by decide)
        · exact hnonempty hempty
  have hread : qualifierAtEnd? ('.' :: (digits ++ (c :: rest ++ back))) =
      some (some (digits ++ c :: rest)) := by
    refine qualifierAtEnd?_eq_some_iff.mpr ⟨'.' :: (digits ++ c :: rest), back, by simp, hback,
      .some (Or.inr rfl) (by simp) ?_⟩
    rw [List.forall_mem_append]
    exact hchars.2
  have hassoc : '.' :: (digits ++ c :: rest) ++ back = '.' :: (digits ++ (c :: rest ++ back)) := by
    simp
  rw [hassoc, patchAndQualifier?_of_run hrun hstops, hunread, hread]
  rfl

/-- What is read behind the minor component, with white space at the end. -/
theorem patchAndQualifier?_eq_some_iff :
    patchAndQualifier? text = some (patch, qualifier) ↔
      ∃ front back,
        text = front ++ back ∧ (∀ c ∈ back, Text.isBlank c = true) ∧
        (IsTail front patch qualifier ∨
          IsMisread front ∧ patch = none ∧ qualifier = some front.tail) := by
  constructor
  · intro hread
    by_cases hopens : OpensPatch text
    · obtain ⟨digits, rest, rfl, hrun, hstops⟩ := exists_run_of_opensPatch hopens
      rw [patchAndQualifier?_of_run hrun hstops] at hread
      cases hend : qualifierAtEnd? rest with
      | some found =>
          rw [hend] at hread
          cases hread
          obtain ⟨core, back, rfl, hback, hqualifier⟩ := qualifierAtEnd?_eq_some_iff.mp hend
          exact ⟨'.' :: (digits ++ core), back, by simp, hback, Or.inl (.patch hrun hqualifier)⟩
      | none =>
          rw [hend] at hread
          obtain ⟨found, hfound, hparts⟩ := Option.map_eq_some_iff.mp hread
          cases hparts
          obtain ⟨front, back, hsplit, hback, hmisread, rfl⟩ :=
            isMisread_of_run hrun hstops hend hfound
          exact ⟨front, back, hsplit, hback, Or.inr ⟨hmisread, rfl, rfl⟩⟩
    · rw [patchAndQualifier?_of_not_opensPatch hopens] at hread
      obtain ⟨found, hfound, hparts⟩ := Option.map_eq_some_iff.mp hread
      cases hparts
      obtain ⟨front, back, rfl, hback, hqualifier⟩ := qualifierAtEnd?_eq_some_iff.mp hfound
      refine ⟨front, back, rfl, hback, Or.inl (.bare ?_ hqualifier)⟩
      rintro ⟨c, rest, rfl, hdigit⟩
      exact hopens ⟨c, rest ++ back, rfl, hdigit⟩
  · rintro ⟨front, back, rfl, hback, htail | ⟨hmisread, rfl, rfl⟩⟩
    · cases htail with
      | @patch digits rest _ hrun hqualifier =>
          have hassoc : '.' :: (digits ++ rest) ++ back = '.' :: (digits ++ (rest ++ back)) := by
            simp
          rw [hassoc, patchAndQualifier?_of_run hrun (stops_append_blank hqualifier.stops hback),
            qualifierAtEnd?_eq_some_iff.mpr ⟨rest, back, rfl, hback, hqualifier⟩]
      | bare hopens hqualifier =>
          rw [patchAndQualifier?_of_not_opensPatch,
            qualifierAtEnd?_eq_some_iff.mpr ⟨front, back, rfl, hback, hqualifier⟩]
          · rfl
          · rintro ⟨c, rest, hsplit, hdigit⟩
            cases hqualifier with
            | none =>
                have hblank := hback '.' (by
                  rw [← List.nil_append back, hsplit]
                  exact List.mem_cons_self)
                rw [isBlank_dot] at hblank
                cases hblank
            | @some separator inner _ hnonempty _ =>
                obtain ⟨first, others, rfl⟩ := List.exists_cons_of_ne_nil hnonempty
                cases hsplit
                exact hopens ⟨_, _, rfl, hdigit⟩
    · exact hmisread.patchAndQualifier?_eq hback

end Tails

/-! ## Whole texts -/

section Texts

variable {text major minor rest : List Char}

theorem exists_mark
    (text : List Char) :
    ∃ mark, (mark = [] ∨ mark = ['v']) ∧ text = mark ++ dropMark text := by
  unfold dropMark
  split
  · next rest => exact ⟨['v'], Or.inr rfl, rfl⟩
  · exact ⟨[], Or.inl rfl, rfl⟩

/-- No component begins with the mark. -/
theorem dropMark_append
    {mark : List Char}
    (hmark : mark = [] ∨ mark = ['v'])
    (hrun : IsRun major) :
    dropMark (mark ++ (major ++ rest)) = major ++ rest := by
  rcases hmark with rfl | rfl
  · obtain ⟨c, others, rfl⟩ := List.exists_cons_of_ne_nil hrun.nonempty
    have hne : c ≠ 'v' := by
      rintro rfl
      exact absurd (hrun.digits _ List.mem_cons_self) (by decide)
    simp only [List.nil_append, List.cons_append]
    unfold dropMark
    split
    · next heq =>
        cases heq
        exact absurd rfl hne
    · rfl
  · rfl

/-- Neither the mark nor a component begins with white space. -/
theorem stops_mark
    {mark : List Char}
    (hmark : mark = [] ∨ mark = ['v'])
    (hrun : IsRun major) :
    Stops Text.isBlank (mark ++ (major ++ rest)) := by
  rcases hmark with rfl | rfl
  · obtain ⟨first, others, rfl⟩ := List.exists_cons_of_ne_nil hrun.nonempty
    rintro _ ⟨⟩
    exact not_isBlank_of_isDecimalDigit (hrun.digits first List.mem_cons_self)
  · rintro _ ⟨⟩
    decide

/-- A text that is taken apart begins with its two components. -/
theorem exists_split_of_ofChars?
    {parts : Parts}
    (hparts : Parts.ofChars? text = some parts) :
    ∃ tail,
      dropMark (text.dropWhile Text.isBlank) = parts.major ++ '.' :: (parts.minor ++ tail) ∧
      IsRun parts.major ∧ IsRun parts.minor ∧ Stops Text.isDecimalDigit tail ∧
      patchAndQualifier? tail = some (parts.patch, parts.qualifier) := by
  unfold Parts.ofChars? at hparts
  simp only at hparts
  split at hparts
  · cases hparts
  · next hmajor =>
      split at hparts
      · next after hafter =>
          split at hparts
          · cases hparts
          · next hminor =>
              obtain ⟨⟨patch, qualifier⟩, hread, rfl⟩ := Option.map_eq_some_iff.mp hparts
              refine ⟨_, ?_, ⟨by simpa using hmajor, fun _ => List.mem_takeWhile_imp⟩,
                ⟨by simpa using hminor, fun _ => List.mem_takeWhile_imp⟩,
                stops_dropWhile _ _, hread⟩
              rw [List.takeWhile_append_dropWhile, ← hafter, List.takeWhile_append_dropWhile]
      · cases hparts

theorem ofChars?_of_split
    {tail : List Char}
    (htext : dropMark (text.dropWhile Text.isBlank) = major ++ '.' :: (minor ++ tail))
    (hmajor : IsRun major)
    (hminor : IsRun minor)
    (hstops : Stops Text.isDecimalDigit tail) :
    Parts.ofChars? text =
      (patchAndQualifier? tail).map fun (patch, qualifier) => ⟨major, minor, patch, qualifier⟩ := by
  have hmajorEmpty : major.isEmpty = false := List.isEmpty_eq_false_iff.mpr hmajor.nonempty
  have hminorEmpty : minor.isEmpty = false := List.isEmpty_eq_false_iff.mpr hminor.nonempty
  simp only [Parts.ofChars?, htext, takeWhile_append_of_stops hmajor.digits stops_dot,
    dropWhile_append_of_stops hmajor.digits stops_dot,
    takeWhile_append_of_stops hminor.digits hstops,
    dropWhile_append_of_stops hminor.digits hstops, hmajorEmpty, hminorEmpty, Bool.false_eq_true,
    if_false]

/-- A text is taken apart exactly when what follows on its two components is a tail of the grammar
or misread.  What is misread counts as a qualifier. -/
theorem ofChars?_eq_some_iff
    {parts : Parts} :
    Parts.ofChars? text = some parts ↔
      ∃ rest,
        Splits text parts.major parts.minor rest ∧
        (IsTail rest parts.patch parts.qualifier ∨
          IsMisread rest ∧ parts.patch = none ∧ parts.qualifier = some rest.tail) := by
  constructor
  · intro hparts
    obtain ⟨tail, htext, hmajor, hminor, hstops, hread⟩ := exists_split_of_ofChars? hparts
    obtain ⟨rest, back, rfl, hback, htail⟩ := patchAndQualifier?_eq_some_iff.mp hread
    obtain ⟨mark, hmark, hmarked⟩ := exists_mark (text.dropWhile Text.isBlank)
    have hblank : ∀ c ∈ rest, Text.isBlank c = false := by
      rcases htail with htail | ⟨hmisread, _⟩
      · exact htail.not_isBlank
      · exact hmisread.not_isBlank
    refine ⟨rest, ⟨⟨text.takeWhile Text.isBlank, mark, back, ?_, fun _ => List.mem_takeWhile_imp,
      hmark, hback⟩, hmajor, hminor, hstops.of_append,
      fun c hc => hblank c (List.mem_of_getLast? hc)⟩, htail⟩
    rw [← htext, ← hmarked, List.takeWhile_append_dropWhile]
  · rintro ⟨rest, hsplits, htail⟩
    obtain ⟨front, mark, back, rfl, hfront, hmark, hback⟩ := hsplits.parts
    have hread := patchAndQualifier?_eq_some_iff.mpr ⟨rest, back, rfl, hback, htail⟩
    have hparts := ofChars?_of_split 
      (by rw [dropWhile_append_of_stops hfront (stops_mark hmark hsplits.major_run),
        dropMark_append hmark hsplits.major_run])
      hsplits.major_run hsplits.minor_run (stops_append_blank hsplits.stops hback)
    rw [hparts, hread]
    rfl

end Texts

end Version
end RestartCheck
