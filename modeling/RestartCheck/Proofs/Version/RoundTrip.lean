import RestartCheck.Proofs.Version.Reading
import RestartCheck.Proofs.Version.Writing

/-!
# Reading versions back

The text of a version is read back as the same version when its build component is that of a release
or of one of the twenty-four builds of a kind.  For every other build component the text is
rejected: either the number of the build is out of range, or a build component below zero puts a
second dash into the text.

**Results.**
* `parse_spelling_of_isNamed`, `parse_spelling_of_not_isNamed`: what the text of a version is read
  as.
* `isWritable_of_parse`, `isNamed_of_parse`: every version that was read can be written.
* `reads_back_iff_isNamed`: when a version is read back, and that different versions that were read
  have different texts.
-/

namespace RestartCheck

namespace Version

open Decimal

/-! ## Writing -/

section Writing

variable {v : Version}

/-- The decimal digits of a component. -/
def digitsOf (component : Int) : List Char :=
  Nat.toDigits 10 component.toNat

theorem isDigit_of_mem_digitsOf
    {component : Int} {c : Char}
    (hmem : c ∈ digitsOf component) :
    c.isDigit = true :=
  Nat.isDigit_of_mem_toDigits (by decide) (by decide) hmem

theorem isRun_digitsOf
    (component : Int) :
    IsRun (digitsOf component) where
  nonempty := Nat.toDigits_ne_nil
  digits := by
    intro c hmem
    have hvalue := Text.isDigit_decimalValue?
      (Char.isDigit_iff_toNat.mp (isDigit_of_mem_digitsOf hmem))
    rw [Text.isDecimalDigit, hvalue]
    rfl

theorem toList_toString_of_nonneg
    {component : Int}
    (hnonneg : 0 ≤ component) :
    (toString component).toList = digitsOf component := by
  rw [Int.toString_eq_repr, Int.repr_eq_if, if_pos hnonneg, Nat.toList_repr]
  rfl

theorem toList_toString_of_neg
    {component : Int}
    (hneg : component < 0) :
    (toString component).toList = '-' :: digitsOf (-component) := by
  rw [Int.toString_eq_repr, Int.repr_eq_if, if_neg (by omega), String.toList_append,
    Nat.toList_repr]
  rfl

/-- A component that can be written is read back. -/
theorem component_digitsOf
    {number : Int}
    (hnonneg : 0 ≤ number)
    (hfits : number.natAbs < 10 ^ digitLimit) :
    component (digitsOf number) = .ok number := by
  refine component_eq_ok_iff.mpr ⟨isRun_digitsOf number, length_toDigits_le_digitLimit ?_, ?_⟩
  · omega
  · rw [digitsOf, naturalValue_toDigits, Int.toNat_of_nonneg hnonneg]

/-- The components count from zero, and all of them can be written out. -/
structure IsWritable (v : Version) : Prop where
  major_nonneg : 0 ≤ v.major
  minor_nonneg : 0 ≤ v.minor
  patch_nonneg : 0 ≤ v.patch
  fits : ∀ component ∈ [v.major, v.minor, v.patch, v.build], component.natAbs < 10 ^ digitLimit

/-- The build component of a release, or of one of the builds before it. -/
def IsNamed (build : Int) : Prop :=
  1 ≤ build ∧ build ≤ 24 ∨ 26 ≤ build ∧ build ≤ 49 ∨ 51 ≤ build ∧ build ≤ 74 ∨
    build = releaseBuild

instance (build : Int) : Decidable (IsNamed build) :=
  inferInstanceAs (Decidable (_ ∨ _ ∨ _ ∨ _))

theorem isNamed_iff
    {build : Int} :
    IsNamed build ↔ build = releaseBuild ∨ 1 ≤ numberOf build ∧ numberOf build ≤ 24 := by
  unfold IsNamed numberOf PreRelease.ofBuild releaseBuild
  split_ifs with hcandidate hbeta <;> simp only [PreRelease.base] <;> omega

/-- Only a build component below zero is written with a number below zero. -/
theorem numberOf_eq_or_nonneg
    (build : Int) :
    build < 0 ∧ PreRelease.ofBuild build = .alpha ∧ numberOf build = build ∨
      0 ≤ numberOf build ∧ (numberOf build).natAbs ≤ build.natAbs := by
  unfold numberOf PreRelease.ofBuild
  split_ifs with hcandidate hbeta
  · exact Or.inr (by simp only [PreRelease.base]; omega)
  · exact Or.inr (by simp only [PreRelease.base]; omega)
  · simp only [PreRelease.base, true_and]
    omega

/-- The kind of a build and its number. -/
def buildText (build : Int) : List Char :=
  (PreRelease.ofBuild build).text.toList ++ (toString (numberOf build)).toList

/-- What the text of a version says about its build. -/
def suffix (build : Int) : List Char :=
  if build = releaseBuild then [] else '-' :: buildText build

theorem toList_spelling
    (hwritable : IsWritable v) :
    v.spelling.toList =
      digitsOf v.major ++ '.' :: (digitsOf v.minor ++ '.' :: (digitsOf v.patch ++ suffix v.build))
    := by
  have hbase : v.baseSpelling.toList =
      digitsOf v.major ++ '.' :: (digitsOf v.minor ++ '.' :: digitsOf v.patch) := by
    simp only [baseSpelling, String.toList_append,
      toList_toString_of_nonneg hwritable.major_nonneg,
      toList_toString_of_nonneg hwritable.minor_nonneg,
      toList_toString_of_nonneg hwritable.patch_nonneg, List.append_assoc]
    rfl
  by_cases hrelease : v.build = releaseBuild
  · have hnone : v.isRelease = true := by simpa [isRelease] using hrelease
    rw [spelling, if_pos hnone, hbase, suffix, if_pos hrelease, List.append_nil]
  · have hnot : v.isRelease = false := by simpa [isRelease] using hrelease
    simp only [spelling, hnot, Bool.false_eq_true, if_false, String.toList_append, hbase, suffix,
      hrelease, buildText, List.append_assoc, List.cons_append]
    rfl

/-- No number in a version that can be written is too long. -/
theorem IsWritable.not_isUnwritten
    (hwritable : IsWritable v) :
    ¬v.IsUnwritten := by
  rintro ⟨number, hmem, hlong⟩
  refine absurd ?_ (Nat.not_lt.mpr hlong)
  have hfits := hwritable.fits
  generalize 10 ^ digitLimit = bound at hfits ⊢
  simp only [List.forall_mem_cons] at hfits
  obtain ⟨hmajor, hminor, hpatch, hbuild, _⟩ := hfits
  have hnumber : (numberOf v.build).natAbs < bound := by
    rcases numberOf_eq_or_nonneg v.build with ⟨_, _, hsame⟩ | ⟨_, hle⟩
    · rwa [hsame]
    · exact Nat.lt_of_le_of_lt hle hbuild
  simp only [numbers, List.cons_append, List.nil_append, List.mem_cons] at hmem
  rcases hmem with rfl | rfl | rfl | hmem
  · exact hmajor
  · exact hminor
  · exact hpatch
  · split at hmem
    · cases hmem
    · rw [List.mem_singleton.mp hmem]
      exact hnumber

/-- A version that can be written is. -/
theorem text?_of_isWritable
    (hwritable : IsWritable v) :
    v.text? = some v.spelling :=
  text?_of_not_isUnwritten hwritable.not_isUnwritten

end Writing

/-! ## Reading what was written -/

section Reading

variable {v : Version} {text : String}

theorem isQualifierChar_of_mem_text
    (kind : PreRelease) :
    ∀ c ∈ kind.text.toList, isQualifierChar c = true := by
  refine List.all_eq_true.mp ?_
  cases kind with
  | _ => decide

/-- The kind of a build, as it is written, is found in front of its number. -/
theorem preRelease?_text_append
    {digits : List Char}
    (kind : PreRelease)
    (hrun : IsRun digits) :
    preRelease? (kind.text.toList ++ digits) = some (kind, digits) := by
  have hread : (!digits.isEmpty && digits.all Text.isDecimalDigit) = true := by
    rw [Bool.and_eq_true, List.all_eq_true, Bool.not_eq_true', List.isEmpty_eq_false_iff]
    exact ⟨hrun.nonempty, hrun.digits⟩
  -- The digits are to stay as they are tested, so the tests are not turned into statements.
  cases kind with
  | _ => simp [preRelease?, preReleaseNames, PreRelease.text, List.isPrefixOf, hread,
      -List.all_eq_true, -Bool.and_eq_true]

/-- What is read from the text of a version as its qualifier. -/
def qualifierOf (build : Int) : Option (List Char) :=
  if build = releaseBuild then none else some (buildText build)

theorem isQualifier_suffix
    {build : Int}
    (hnonneg : 0 ≤ numberOf build) :
    IsQualifier (suffix build) (qualifierOf build) := by
  unfold suffix qualifierOf
  split
  · exact .none
  · refine .some (Or.inl rfl) ?_ ?_
    · rw [buildText, toList_toString_of_nonneg hnonneg]
      exact List.append_ne_nil_of_right_ne_nil _ (isRun_digitsOf _).nonempty
    · rw [buildText, toList_toString_of_nonneg hnonneg, List.forall_mem_append]
      exact ⟨isQualifierChar_of_mem_text _,
        fun c hmem =>
          isQualifierChar_iff.mpr (Or.inl (Or.inr (isDigit_of_mem_digitsOf hmem)))⟩

/-- The text of a version is taken apart into what it was made of, unless its build component is
below zero. -/
theorem ofChars?_spelling
    (hwritable : IsWritable v)
    (hnonneg : 0 ≤ numberOf v.build) :
    Parts.ofChars? v.spelling.toList =
      some ⟨digitsOf v.major, digitsOf v.minor, some (digitsOf v.patch), qualifierOf v.build⟩ := by
  have hqualifier := isQualifier_suffix hnonneg
  have htail := IsTail.patch (isRun_digitsOf v.patch) hqualifier
  refine ofChars?_eq_some_iff.mpr ⟨_, ⟨⟨[], [], [], ?_, List.forall_mem_nil _, Or.inl rfl,
    List.forall_mem_nil _⟩, isRun_digitsOf _, isRun_digitsOf _, stops_dot,
    fun c hc => htail.not_isBlank c (List.mem_of_getLast? hc)⟩, Or.inl htail⟩
  simp only [toList_spelling hwritable, List.nil_append, List.append_nil]

/-- The number of a build is read back if there is such a build, and rejected otherwise. -/
theorem buildOf_qualifierOf
    {build : Int}
    (hnonneg : 0 ≤ numberOf build)
    (hfits : (numberOf build).natAbs < 10 ^ digitLimit) :
    buildOf text (qualifierOf build) =
      if IsNamed build then .ok build
      else .error (.configuration ("pre-release number out of range: " ++ Text.quoted text)) := by
  by_cases hrelease : build = releaseBuild
  · rw [qualifierOf, if_pos hrelease, if_pos (isNamed_iff.mpr (Or.inl hrelease)), hrelease]
    rfl
  · have hkind := preRelease?_text_append (PreRelease.ofBuild build)
      (isRun_digitsOf (numberOf build))
    have hsum : (PreRelease.ofBuild build).base + numberOf build = build := by
      rw [numberOf]
      omega
    rw [qualifierOf, if_neg hrelease, buildText, toList_toString_of_nonneg hnonneg]
    simp only [buildOf, Option.bind_some, hkind, component_digitsOf hnonneg hfits, hsum,
      isNamed_iff, hrelease, false_or]

theorem parse_spelling_of_nonneg
    (hwritable : IsWritable v)
    (hnonneg : 0 ≤ numberOf v.build)
    (hfits : (numberOf v.build).natAbs < 10 ^ digitLimit) :
    parse v.spelling =
      if IsNamed v.build then .ok v
      else .error (.configuration
        ("pre-release number out of range: " ++ Text.quoted v.spelling)) := by
  unfold parse
  rw [ofChars?_spelling hwritable hnonneg]
  simp only [buildOf_qualifierOf hnonneg hfits, Option.getD_some]
  split
  · rw [component_digitsOf hwritable.major_nonneg (hwritable.fits _ (by simp)),
      component_digitsOf hwritable.minor_nonneg (hwritable.fits _ (by simp)),
      component_digitsOf hwritable.patch_nonneg (hwritable.fits _ (by simp))]
    rfl
  · rfl

/-! ### Two dashes -/

theorem count_dash_of_forall
    {test : Char → Bool} {chars : List Char}
    (hdash : test '-' = false)
    (hchars : ∀ c ∈ chars, test c = true) :
    chars.count '-' = 0 := by
  refine List.count_eq_zero.mpr fun hmem => ?_
  rw [hchars _ hmem] at hdash
  cases hdash

theorem IsRun.count_dash
    {digits : List Char}
    (hrun : IsRun digits) :
    digits.count '-' = 0 :=
  count_dash_of_forall isDecimalDigit_dash hrun.digits

theorem IsQualifier.count_dash_le
    {chars : List Char} {qualifier : Option (List Char)}
    (hqualifier : IsQualifier chars qualifier) :
    chars.count '-' ≤ 1 := by
  cases hqualifier with
  | none => exact Nat.zero_le 1
  | @some separator inner _ _ hchars =>
      have hinner := count_dash_of_forall (by decide : isQualifierChar '-' = false) hchars
      rw [List.count_cons, hinner]
      split <;> omega

/-- A text that is taken apart has one dash at most. -/
theorem count_dash_le_of_ofChars?
    {chars : List Char} {parts : Parts}
    (hparts : Parts.ofChars? chars = some parts) :
    chars.count '-' ≤ 1 := by
  obtain ⟨major, minor, patch, qualifier⟩ := parts
  obtain ⟨rest, hsplits, htail⟩ := ofChars?_eq_some_iff.mp hparts
  have hrest : rest.count '-' ≤ 1 := by
    rcases htail with htail | ⟨hmisread, _⟩
    · cases htail with
      | patch hrun hqualifier =>
          rw [List.count_cons_of_ne (by decide), List.count_append, hrun.count_dash, Nat.zero_add]
          exact hqualifier.count_dash_le
      | bare _ hqualifier => exact hqualifier.count_dash_le
    · rw [count_dash_of_forall (by decide : isQualifierChar '-' = false) hmisread.chars]
      exact Nat.zero_le 1
  obtain ⟨front, mark, back, rfl, hfront, hmark, hback⟩ := hsplits.parts
  have hmarked : mark.count '-' = 0 := by
    rcases hmark with rfl | rfl
    · rfl
    · decide
  rw [List.count_append, List.count_append, List.count_append,
    List.count_cons_of_ne (by decide), List.count_append, List.count_append,
    count_dash_of_forall isBlank_dash hfront, hmarked, hsplits.major_run.count_dash,
    hsplits.minor_run.count_dash, count_dash_of_forall isBlank_dash hback]
  omega

/-- A build component below zero puts two dashes into the text. -/
theorem ofChars?_spelling_of_neg
    (hwritable : IsWritable v)
    (hneg : v.build < 0) :
    Parts.ofChars? v.spelling.toList = none := by
  rw [Option.eq_none_iff_forall_ne_some]
  intro parts hparts
  have hcount := count_dash_le_of_ofChars? hparts
  obtain ⟨_, hkind, hnumber⟩ | ⟨hnonneg, _⟩ := numberOf_eq_or_nonneg v.build
  · have hnot : v.build ≠ releaseBuild := by
      rw [releaseBuild]
      omega
    have hsuffix : 2 ≤ (suffix v.build).count '-' := by
      rw [suffix, if_neg hnot, buildText, hnumber, toList_toString_of_neg hneg,
        List.count_cons_self, List.count_append, List.count_cons_self]
      omega
    rw [toList_spelling hwritable, List.count_append, List.count_cons_of_ne (by decide),
      List.count_append, List.count_cons_of_ne (by decide), List.count_append] at hcount
    omega
  · unfold numberOf PreRelease.ofBuild at hnonneg
    rw [if_neg (by omega), if_neg (by omega), PreRelease.base] at hnonneg
    omega

end Reading

/-! ## Versions that were read -/

section Read

variable {v : Version} {text : String}

theorem parse_spelling_of_isNamed
    (hwritable : IsWritable v)
    (hnamed : IsNamed v.build) :
    parse v.spelling = .ok v := by
  rcases numberOf_eq_or_nonneg v.build with ⟨hneg, _⟩ | ⟨hnonneg, hle⟩
  · unfold IsNamed releaseBuild at hnamed
    omega
  · have hfits := hwritable.fits v.build (by simp)
    rw [parse_spelling_of_nonneg hwritable hnonneg (Nat.lt_of_le_of_lt hle hfits), if_pos hnamed]

/-- The text of a version whose build component is that of no build is rejected. -/
theorem parse_spelling_of_not_isNamed
    (hwritable : IsWritable v)
    (hnot : ¬IsNamed v.build) :
    ∃ message, parse v.spelling = .error (.configuration message) := by
  rcases numberOf_eq_or_nonneg v.build with ⟨hneg, _⟩ | ⟨hnonneg, hle⟩
  · exact ⟨_, parse_of_ofChars?_eq_none (ofChars?_spelling_of_neg hwritable hneg)⟩
  · have hfits := hwritable.fits v.build (by simp)
    rw [parse_spelling_of_nonneg hwritable hnonneg (Nat.lt_of_le_of_lt hle hfits), if_neg hnot]
    exact ⟨_, rfl⟩

theorem isNamed_of_buildOf
    {qualifier : Option (List Char)} {build : Int}
    (hbuild : buildOf text qualifier = .ok build) :
    IsNamed build := by
  unfold buildOf at hbuild
  split at hbuild
  · cases hbuild
    exact Or.inr (Or.inr (Or.inr rfl))
  · next kind digits _ =>
      split at hbuild
      · cases hbuild
      · next number _ =>
          split at hbuild
          · next hrange =>
              cases hbuild
              unfold IsNamed
              cases kind <;> simp only [PreRelease.base] <;> omega
          · cases hbuild

theorem isNamed_of_parse
    (hparse : parse text = .ok v) :
    IsNamed v.build := by
  obtain ⟨_, _, hbuild, _⟩ := parse_eq_ok_iff.mp hparse
  exact isNamed_of_buildOf hbuild

theorem nonneg_of_component
    {digits : List Char} {value : Int}
    (hread : component digits = .ok value) :
    0 ≤ value ∧ value.natAbs < 10 ^ digitLimit := by
  obtain ⟨_, hlength, rfl⟩ := component_eq_ok_iff.mp hread
  refine ⟨Int.natCast_nonneg _, ?_⟩
  rw [Int.natAbs_natCast]
  exact Nat.lt_of_lt_of_le (naturalValue_lt digits) (Nat.pow_le_pow_right (by decide) hlength)

theorem natAbs_lt_of_small
    {value : Int}
    (hsmall : value.natAbs < 100) :
    value.natAbs < 10 ^ digitLimit := by
  have hpower : 10 ^ 2 ≤ 10 ^ digitLimit := Nat.pow_le_pow_right (by decide) (by decide)
  omega

/-- Every version that was read can be written. -/
theorem isWritable_of_parse
    (hparse : parse text = .ok v) :
    IsWritable v := by
  obtain ⟨_, _, _, hmajor, hminor, hpatch⟩ := parse_eq_ok_iff.mp hparse
  have hnamed := isNamed_of_parse hparse
  have hbuild : v.build.natAbs < 10 ^ digitLimit := by
    refine natAbs_lt_of_small ?_
    unfold IsNamed releaseBuild at hnamed
    omega
  refine ⟨(nonneg_of_component hmajor).1, (nonneg_of_component hminor).1,
    (nonneg_of_component hpatch).1, ?_⟩
  simp only [List.forall_mem_cons]
  exact ⟨(nonneg_of_component hmajor).2, (nonneg_of_component hminor).2,
    (nonneg_of_component hpatch).2, hbuild, List.forall_mem_nil _⟩

end Read

/-- **The versions that are read back from their texts.**  A version that can be written is read
back from its text exactly when its build component is that of a release or of a build before it;
the text of every other one is rejected.  Every version that was read from some text is read back
from its own, so that no two of them are written alike. -/
theorem reads_back_iff_isNamed :
    (∀ v : Version, IsWritable v →
      ∃ text,
        v.text? = some text ∧
        (parse text = .ok v ↔ IsNamed v.build) ∧
        (¬IsNamed v.build → ∃ message, parse text = .error (.configuration message))) ∧
    (∀ text v, parse text = .ok v →
      ∃ written, v.text? = some written ∧ parse written = .ok v) ∧
    ∀ text text' v v',
      parse text = .ok v → parse text' = .ok v' → v.text? = v'.text? → v = v' := by
  have hagain : ∀ text v, parse text = .ok v →
      v.text? = some v.spelling ∧ parse v.spelling = .ok v := fun _ _ hparse =>
    ⟨text?_of_isWritable (isWritable_of_parse hparse),
      parse_spelling_of_isNamed (isWritable_of_parse hparse) (isNamed_of_parse hparse)⟩
  refine ⟨fun v hwritable => ⟨v.spelling, text?_of_isWritable hwritable, ⟨fun hread => ?_,
    parse_spelling_of_isNamed hwritable⟩, parse_spelling_of_not_isNamed hwritable⟩,
    fun text v hparse => ⟨_, hagain text v hparse⟩, ?_⟩
  · by_contra hnot
    obtain ⟨message, hrejected⟩ := parse_spelling_of_not_isNamed hwritable hnot
    rw [hread] at hrejected
    cases hrejected
  · intro text text' v v' hparse hparse' htext
    obtain ⟨hwritten, hread⟩ := hagain text v hparse
    obtain ⟨hwritten', hread'⟩ := hagain text' v' hparse'
    rw [hwritten, hwritten', Option.some.injEq] at htext
    rw [htext, hread'] at hread
    exact (Except.ok.inj hread).symm

theorem isWritable_of_small
    {build : Int}
    (hsmall : build.natAbs < 100) :
    IsWritable ⟨6, 4, 0, build⟩ := by
  refine ⟨Int.natCast_nonneg 6, Int.natCast_nonneg 4, Int.natCast_nonneg 0, ?_⟩
  simp only [List.forall_mem_cons]
  exact ⟨natAbs_lt_of_small (by decide), natAbs_lt_of_small (by decide),
    natAbs_lt_of_small (by decide), natAbs_lt_of_small hsmall, List.forall_mem_nil _⟩

/-- The last alpha build is read back, and the build components next to it and below zero are
rejected.  A candidate that was written in another way is read back from its own text, and two texts
that differ in white space only stand for one version. -/
theorem reads_back_last_alpha :
    (∃ text, Version.text? ⟨6, 4, 0, 24⟩ = some text ∧ parse text = .ok ⟨6, 4, 0, 24⟩) ∧
    (∃ text message,
      Version.text? ⟨6, 4, 0, 25⟩ = some text ∧ parse text = .error (.configuration message)) ∧
    (∃ text message,
      Version.text? ⟨6, 4, 0, -3⟩ = some text ∧ parse text = .error (.configuration message)) ∧
    parse "v6.4-RC03" = .ok ⟨6, 4, 0, 53⟩ ∧
    (∃ text, Version.text? ⟨6, 4, 0, 53⟩ = some text ∧ parse text = .ok ⟨6, 4, 0, 53⟩) ∧
    (∃ v v', parse "6.4" = .ok v ∧ parse " 6.4 " = .ok v' ∧ v = v') := by
  obtain ⟨hwritten, hagain, hinjective⟩ := reads_back_iff_isNamed
  have hcandidate : parse "v6.4-RC03" = .ok ⟨6, 4, 0, 53⟩ := by rfl
  obtain ⟨alpha, halpha, hnamed, _⟩ := hwritten ⟨6, 4, 0, 24⟩ (isWritable_of_small (by decide))
  obtain ⟨next, hnext, _, hunnamed⟩ := hwritten ⟨6, 4, 0, 25⟩ (isWritable_of_small (by decide))
  obtain ⟨below, hbelow, _, hnegative⟩ := hwritten ⟨6, 4, 0, -3⟩ (isWritable_of_small (by decide))
  obtain ⟨_, hrejected⟩ := hunnamed (by decide)
  obtain ⟨_, hdashed⟩ := hnegative (by decide)
  refine ⟨⟨alpha, halpha, hnamed.mpr (by decide)⟩, ⟨next, _, hnext, hrejected⟩,
    ⟨below, _, hbelow, hdashed⟩, hcandidate, hagain _ _ hcandidate, ⟨6, 4, 0, 99⟩, ⟨6, 4, 0, 99⟩,
    by rfl, by rfl, ?_⟩
  exact hinjective "6.4" " 6.4 " _ _ (by rfl) (by rfl) rfl

end Version
end RestartCheck
