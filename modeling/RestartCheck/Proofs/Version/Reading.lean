import RestartCheck.Proofs.Json.Reading
import RestartCheck.Proofs.Version.Grammar

/-!
# What is read from a version text

The two components in front are always read as they stand.  The patch component is the run of digits
behind the next dot, if there is one, except when the text is misread: then these digits are
dropped, and the text is accepted as another version.

**Results.**
* `Splits.unique`: a text is written in one way only as two components and a rest.
* `parse_eq_ok_iff`: what an accepted text consists of.
* `parse_of_isMisread`: a text that is misread is accepted without its patch component.
* `keeps_components_unless_misread`: what becomes of the components of a text, and which texts are
  rejected.
-/

namespace RestartCheck
namespace Version

open Decimal

section Uniqueness

variable {text major minor rest : List Char}

/-- White space at the end is told from a text that does not end in white space. -/
theorem eq_of_trimmed_append_eq
    {rest' back back' : List Char}
    (heq : rest ++ back = rest' ++ back')
    (hrest : ∀ c ∈ rest.getLast?, Text.isBlank c = false)
    (hback : ∀ c ∈ back, Text.isBlank c = true)
    (hrest' : ∀ c ∈ rest'.getLast?, Text.isBlank c = false)
    (hback' : ∀ c ∈ back', Text.isBlank c = true) :
    rest = rest' := by
  have hreversed : back.reverse ++ rest.reverse = back'.reverse ++ rest'.reverse := by
    rw [← List.reverse_append, ← List.reverse_append, heq]
  have hstops : Stops Text.isBlank rest.reverse := by
    intro c hc
    rw [List.head?_reverse] at hc
    exact hrest c hc
  have hstops' : Stops Text.isBlank rest'.reverse := by
    intro c hc
    rw [List.head?_reverse] at hc
    exact hrest' c hc
  obtain ⟨_, hsame⟩ := eq_of_append_eq_of_stops hreversed (by simpa using hback) hstops
    (by simpa using hback') hstops'
  exact List.reverse_inj.mp hsame

/-- What is left without the white space and the mark in front. -/
theorem Splits.exists_back
    (hsplits : Splits text major minor rest) :
    ∃ back,
      dropMark (text.dropWhile Text.isBlank) = major ++ '.' :: (minor ++ (rest ++ back)) ∧
      (∀ c ∈ back, Text.isBlank c = true) := by
  obtain ⟨front, mark, back, rfl, hfront, hmark, hback⟩ := hsplits.parts
  refine ⟨back, ?_, hback⟩
  rw [dropWhile_append_of_stops hfront (stops_mark hmark hsplits.major_run),
    dropMark_append hmark hsplits.major_run]

/-- There is only one way to write a text as two components and a rest. -/
theorem Splits.unique
    {major' minor' rest' : List Char}
    (hsplits : Splits text major minor rest)
    (hsplits' : Splits text major' minor' rest') :
    major = major' ∧ minor = minor' ∧ rest = rest' := by
  obtain ⟨back, hleft, hback⟩ := hsplits.exists_back
  obtain ⟨back', hleft', hback'⟩ := hsplits'.exists_back
  obtain ⟨rfl, hminor⟩ := eq_of_append_eq_of_stops (hleft.symm.trans hleft')
    hsplits.major_run.digits stops_dot hsplits'.major_run.digits stops_dot
  obtain ⟨rfl, hrest⟩ := eq_of_append_eq_of_stops (List.cons.inj hminor).2
    hsplits.minor_run.digits (stops_append_blank hsplits.stops hback)
    hsplits'.minor_run.digits (stops_append_blank hsplits'.stops hback')
  exact ⟨rfl, rfl,
    eq_of_trimmed_append_eq hrest hsplits.trimmed hback hsplits'.trimmed hback'⟩

/-- What is misread is no tail of the grammar. -/
theorem IsMisread.not_isTail
    {patch qualifier : Option (List Char)}
    (hmisread : IsMisread rest) :
    ¬IsTail rest patch qualifier := by
  intro htail
  have hread := patchAndQualifier?_eq_some_iff.mpr
    ⟨rest, [], (List.append_nil rest).symm, List.forall_mem_nil _, Or.inl htail⟩
  have hother := patchAndQualifier?_eq_some_iff.mpr
    ⟨rest, [], (List.append_nil rest).symm, List.forall_mem_nil _, Or.inr ⟨hmisread, rfl, rfl⟩⟩
  rw [hread] at hother
  cases hother
  cases htail with
  | bare hopens _ => exact hopens hmisread.opensPatch

end Uniqueness

/-! ## Components -/

section Components

variable {text : String} {version : Version}

theorem component_eq_ok_iff
    {digits : List Char} {value : Int} :
    component digits = .ok value ↔
      IsRun digits ∧ digits.length ≤ digitLimit ∧ value = naturalValue digits := by
  unfold component
  constructor
  · intro hread
    split at hread
    · next n hn =>
        cases hread
        obtain ⟨hnonempty, hdigits, hlength, rfl⟩ := readNatural_eq_ok_iff.mp hn
        exact ⟨⟨hnonempty, hdigits⟩, hlength, rfl⟩
    · cases hread
  · rintro ⟨hrun, hlength, rfl⟩
    rw [readNatural_eq_ok_iff.mpr ⟨hrun.nonempty, hrun.digits, hlength, rfl⟩]

/-- What an accepted text consists of. -/
theorem parse_eq_ok_iff :
    parse text = .ok version ↔
      ∃ parts,
        Parts.ofChars? text.toList = some parts ∧
        buildOf text parts.qualifier = .ok version.build ∧
        component parts.major = .ok version.major ∧
        component parts.minor = .ok version.minor ∧
        component (parts.patch.getD ['0']) = .ok version.patch := by
  unfold parse
  cases Parts.ofChars? text.toList with
  | none => simp
  | some parts =>
      simp only [Option.some.injEq, exists_eq_left', Json.bind_eq_ok_iff]
      constructor
      · rintro ⟨build, hbuild, major, hmajor, minor, hminor, patch, hpatch, hversion⟩
        cases hversion
        exact ⟨hbuild, hmajor, hminor, hpatch⟩
      · rintro ⟨hbuild, hmajor, hminor, hpatch⟩
        exact ⟨_, hbuild, _, hmajor, _, hminor, _, hpatch, rfl⟩

/-- A text that is not taken apart is rejected. -/
theorem parse_of_ofChars?_eq_none
    (hnone : Parts.ofChars? text.toList = none) :
    parse text = .error (.configuration ("invalid service version: " ++ Text.quoted text)) := by
  unfold parse
  rw [hnone]

/-- The digits behind a dot in front. -/
def digitsBehindDot : List Char → List Char
  | '.' :: rest => rest.takeWhile Text.isDecimalDigit
  | _ => []

theorem digitsBehindDot_of_not_opensPatch
    {rest : List Char}
    (hopens : ¬OpensPatch rest) :
    digitsBehindDot rest = [] := by
  unfold digitsBehindDot
  split
  · next others =>
      cases others with
      | nil => rfl
      | cons c more => exact List.takeWhile_cons_of_neg fun hdigit => hopens ⟨c, more, rfl, hdigit⟩
  · rfl

theorem IsTail.naturalValue_patch
    {rest : List Char} {patch qualifier : Option (List Char)}
    (htail : IsTail rest patch qualifier) :
    naturalValue (patch.getD ['0']) = naturalValue (digitsBehindDot rest) := by
  cases htail with
  | patch hrun hqualifier =>
      rw [digitsBehindDot, takeWhile_append_of_stops hrun.digits hqualifier.stops, Option.getD_some]
  | bare hopens _ =>
      rw [digitsBehindDot_of_not_opensPatch hopens]
      decide

theorem isDigit_of_isDecimalDigit
    {c : Char}
    (hqualifier : isQualifierChar c = true)
    (hdigit : Text.isDecimalDigit c = true) :
    c.isDigit = true := by
  rcases isQualifierChar_iff.mp hqualifier with (halpha | hascii) | rfl
  · rw [not_isDecimalDigit_of_isAlpha halpha] at hdigit
    cases hdigit
  · exact hascii
  · rw [isDecimalDigit_dot] at hdigit
    cases hdigit

/-- No qualifier that begins with a digit names a build before the release. -/
theorem preRelease?_cons_of_isDigit
    {c : Char} {rest : List Char}
    (hdigit : c.isDigit = true) :
    preRelease? (c :: rest) = none := by
  have hlower : c.toLower = c := by
    refine dif_neg ?_
    rintro ⟨hlow, _⟩
    have hcapital : 'A'.toNat ≤ c.toNat := UInt32.le_iff_toNat_le.mp hlow
    exact absurd (Char.isDigit_iff_toNat.mp hdigit).2
      (Nat.not_le.mpr (Nat.lt_of_lt_of_le (by decide) hcapital))
  have hletter : ∀ letter : Char, letter.isDigit = false → letter ≠ c := by
    rintro letter hnone rfl
    rw [hdigit] at hnone
    cases hnone
  simp [preRelease?, preReleaseNames, hlower, hletter 'a' (by decide), hletter 'b' (by decide),
    hletter 'r' (by decide)]

end Components

/-! ## Texts that are misread -/

section Misread

variable {text : String} {major minor rest : List Char}

/-- A text that is misread is accepted without its patch component. -/
theorem parse_of_isMisread
    (hsplits : Splits text.toList major minor rest)
    (hmisread : IsMisread rest)
    (hmajor : major.length ≤ digitLimit)
    (hminor : minor.length ≤ digitLimit) :
    parse text = .ok ⟨naturalValue major, naturalValue minor, 0, releaseBuild⟩ := by
  have hparts : Parts.ofChars? text.toList = some ⟨major, minor, none, some rest.tail⟩ :=
    ofChars?_eq_some_iff.mpr ⟨rest, hsplits, Or.inr ⟨hmisread, rfl, rfl⟩⟩
  obtain ⟨first, others, hopens, hdigit⟩ := hmisread.opensPatch
  have hqualifier : isQualifierChar first = true := hmisread.chars first (by simp [hopens])
  have hascii : first.isDigit = true := isDigit_of_isDecimalDigit hqualifier hdigit
  refine parse_eq_ok_iff.mpr ⟨_, hparts, ?_,
    component_eq_ok_iff.mpr ⟨hsplits.major_run, hmajor, rfl⟩,
    component_eq_ok_iff.mpr ⟨hsplits.minor_run, hminor, rfl⟩, by rfl⟩
  simp only [hopens, List.tail_cons, buildOf, Option.bind_some, preRelease?_cons_of_isDigit hascii]

end Misread

/-- The rest is a patch component and a qualifier, each of which may be missing. -/
def IsRegular (rest : List Char) : Prop :=
  ∃ patch qualifier, IsTail rest patch qualifier

/-- The text is written as two components followed by a regular rest, or by one that is misread. -/
def IsTakenApart (text : List Char) : Prop :=
  ∃ major minor rest, Splits text major minor rest ∧ (IsRegular rest ∨ IsMisread rest)

theorem isTakenApart_iff
    {text : List Char} :
    IsTakenApart text ↔ Parts.ofChars? text ≠ none := by
  rw [Option.ne_none_iff_exists']
  constructor
  · rintro ⟨major, minor, rest, hsplits, ⟨patch, qualifier, htail⟩ | hmisread⟩
    · exact ⟨⟨major, minor, patch, qualifier⟩,
        ofChars?_eq_some_iff.mpr ⟨rest, hsplits, Or.inl htail⟩⟩
    · exact ⟨⟨major, minor, none, some rest.tail⟩,
        ofChars?_eq_some_iff.mpr ⟨rest, hsplits, Or.inr ⟨hmisread, rfl, rfl⟩⟩⟩
  · rintro ⟨parts, hparts⟩
    obtain ⟨rest, hsplits, htail | ⟨hmisread, _⟩⟩ := ofChars?_eq_some_iff.mp hparts
    · exact ⟨parts.major, parts.minor, rest, hsplits, Or.inl ⟨_, _, htail⟩⟩
    · exact ⟨parts.major, parts.minor, rest, hsplits, Or.inr hmisread⟩

/-- **What becomes of the components of a version text.**  The two components in front are read as
they stand.  The patch component is the run of digits behind the next dot, and zero when there is
none, unless the text is misread.  A text that is misread counts as having no patch component, and
it is accepted.  A text of any other form is rejected. -/
theorem keeps_components_unless_misread
    (text : String) :
    (∀ version, parse text = .ok version →
      (∃ major minor rest, Splits text.toList major minor rest) ∧
      ∀ major minor rest, Splits text.toList major minor rest →
        version.major = naturalValue major ∧
        version.minor = naturalValue minor ∧
        (¬IsMisread rest →
          IsRegular rest ∧ version.patch = naturalValue (digitsBehindDot rest)) ∧
        (IsMisread rest → ¬IsRegular rest ∧ version.patch = 0)) ∧
    (∀ major minor rest,
      Splits text.toList major minor rest → IsMisread rest →
      major.length ≤ digitLimit → minor.length ≤ digitLimit →
        parse text = .ok ⟨naturalValue major, naturalValue minor, 0, releaseBuild⟩) ∧
    (¬IsTakenApart text.toList →
      parse text = .error (.configuration ("invalid service version: " ++ Text.quoted text))) := by
  refine ⟨fun version hparse => ?_, fun major minor rest => parse_of_isMisread, fun hapart => ?_⟩
  · obtain ⟨parts, hparts, _, hmajor, hminor, hpatch⟩ := parse_eq_ok_iff.mp hparse
    obtain ⟨rest, hsplits, htail⟩ := ofChars?_eq_some_iff.mp hparts
    refine ⟨⟨_, _, rest, hsplits⟩, fun major minor rest' hsplits' => ?_⟩
    obtain ⟨rfl, rfl, rfl⟩ := hsplits.unique hsplits'
    refine ⟨(component_eq_ok_iff.mp hmajor).2.2, (component_eq_ok_iff.mp hminor).2.2, ?_, ?_⟩
    · intro hregular
      rcases htail with htail | ⟨hmisread, _⟩
      · exact ⟨⟨_, _, htail⟩,
          (component_eq_ok_iff.mp hpatch).2.2.trans (congrArg Nat.cast htail.naturalValue_patch)⟩
      · exact absurd hmisread hregular
    · intro hmisread
      have hirregular : ¬IsRegular rest := fun ⟨_, _, htail⟩ => hmisread.not_isTail htail
      rcases htail with htail | ⟨_, hnone, _⟩
      · exact absurd ⟨_, _, htail⟩ hirregular
      · rw [hnone] at hpatch
        exact ⟨hirregular, (component_eq_ok_iff.mp hpatch).2.2⟩
  · exact parse_of_ofChars?_eq_none (not_not.mp (mt isTakenApart_iff.mpr hapart))

/-- Letters directly behind the patch component. -/
def letteredRest : List Char :=
  ['.', '1', 'a', 'b', 'c']

theorem isRun_digit
    {c : Char}
    (hdigit : Text.isDecimalDigit c = true) :
    IsRun [c] :=
  ⟨List.cons_ne_nil _ _, List.forall_mem_singleton.mpr hdigit⟩

theorem splits_lettered :
    Splits "6.4.1abc".toList ['6'] ['4'] letteredRest where
  parts := ⟨[], [], [], rfl, List.forall_mem_nil _, Or.inl rfl, List.forall_mem_nil _⟩
  major_run := isRun_digit (by decide)
  minor_run := isRun_digit (by decide)
  stops := stops_dot
  trimmed := by
    intro c hc
    obtain rfl : 'c' = c := Option.some.inj hc
    decide

theorem isMisread_lettered :
    IsMisread letteredRest where
  shape := ⟨['1'], 'a', ['b', 'c'], rfl, isRun_digit (by decide), Or.inl (by decide)⟩
  chars := List.all_eq_true.mp (by decide)

/-- A candidate that keeps all of its components, a text that is rejected for the dash at its end,
and one that is misread. -/
theorem keeps_components_of_candidate :
    (∃ version major minor rest,
      parse " v6.4.12-rc3 " = .ok version ∧
      version = ⟨6, 4, 12, 53⟩ ∧
      Splits " v6.4.12-rc3 ".toList major minor rest ∧
      ¬IsMisread rest ∧
      version.patch = naturalValue (digitsBehindDot rest)) ∧
    parse "6.4.1-" = .error (.configuration ("invalid service version: " ++ Text.quoted "6.4.1-")) ∧
    parse "6.4.1abc" = .ok ⟨naturalValue ['6'], naturalValue ['4'], 0, releaseBuild⟩ := by
  refine ⟨?_, ?_, ?_⟩
  · have hparse : parse " v6.4.12-rc3 " = .ok ⟨6, 4, 12, 53⟩ := by rfl
    obtain ⟨⟨major, minor, rest, hsplits⟩, hread⟩ :=
      (keeps_components_unless_misread " v6.4.12-rc3 ").1 _ hparse
    obtain ⟨_, _, hregular, hmisread⟩ := hread major minor rest hsplits
    have hkept : ¬IsMisread rest := fun h => absurd (hmisread h).2 (by decide)
    exact ⟨_, major, minor, rest, hparse, rfl, hsplits, hkept, (hregular hkept).2⟩
  · exact (keeps_components_unless_misread "6.4.1-").2.2
      (mt isTakenApart_iff.mp (not_not.mpr (by rfl)))
  · exact (keeps_components_unless_misread "6.4.1abc").2.1 _ _ _ splits_lettered
      isMisread_lettered (by decide) (by decide)

/-- A text that is no version is read as one, and its patch component is dropped. -/
theorem drops_patch_before_letters :
    ∃ version major minor rest,
      parse "6.4.1abc" = .ok version ∧
      Splits "6.4.1abc".toList major minor rest ∧
      digitsBehindDot rest = ['1'] ∧
      version.patch ≠ naturalValue (digitsBehindDot rest) ∧
      ¬IsRegular rest := by
  refine ⟨⟨6, 4, 0, releaseBuild⟩, _, _, _, by rfl, splits_lettered, by decide, by decide, ?_⟩
  rintro ⟨_, _, htail⟩
  exact isMisread_lettered.not_isTail htail

end Version
end RestartCheck
