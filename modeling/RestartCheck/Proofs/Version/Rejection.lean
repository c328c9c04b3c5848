import RestartCheck.Proofs.Version.Reading

/-!
# Texts that are no versions

A text that is no version is rejected.  The exception are texts of the right form with a run of
digits that is too long to be read as a number: they break the reading off.  The number of a build
is read first, so that a text with a build that does not exist is rejected, however long its
components are.

**Results.**
* `RejectsUnless.bind`: one reading after another.
* `rejectsUnless_component`, `rejectsUnless_buildOf`: the parts of a text.
* `rejectsUnless_parse`: which texts break the reading off.
* `not_isOverlong_of_length`: short texts do not.
-/

namespace RestartCheck

/-! ## Readings that reject -/

/-- The reading accepts or rejects what it is given, except in one case, in which it breaks off
with a defect. -/
structure RejectsUnless
    {α : Type}
    (condition : Prop)
    (known : Except Failure α) : Prop where
  rejects : ¬condition →
    (∃ value, known = .ok value) ∨ ∃ message, known = .error (.configuration message)
  breaks : condition → ∃ message, known = .error (.defect (.badValue message))

section Rules

variable {α β : Type} {condition other : Prop} {known : Except Failure α}

theorem RejectsUnless.congr
    (hknown : RejectsUnless condition known)
    (hiff : condition ↔ other) :
    RejectsUnless other known :=
  ⟨fun hnot => hknown.rejects (mt hiff.mp hnot), fun hother => hknown.breaks (hiff.mpr hother)⟩

theorem rejectsUnless_ok
    (value : α) :
    RejectsUnless False (.ok value : Except Failure α) :=
  ⟨fun _ => Or.inl ⟨value, rfl⟩, False.elim⟩

theorem rejectsUnless_rejected
    (message : String) :
    RejectsUnless False (.error (.configuration message) : Except Failure α) :=
  ⟨fun _ => Or.inr ⟨message, rfl⟩, False.elim⟩

/-- A reading that goes on breaks off in its first part, or after its first part has succeeded. -/
theorem RejectsUnless.bind
    {later : α → Prop} {next : α → Except Failure β}
    (hknown : RejectsUnless condition known)
    (hnext : ∀ value, RejectsUnless (later value) (next value)) :
    RejectsUnless (condition ∨ ∃ value, known = .ok value ∧ later value) (known >>= next) := by
  constructor
  · intro hnot
    obtain ⟨hfirst, hlater⟩ := not_or.mp hnot
    rcases hknown.rejects hfirst with ⟨value, rfl⟩ | ⟨message, rfl⟩
    · exact (hnext value).rejects fun hsecond => hlater ⟨value, rfl, hsecond⟩
    · exact Or.inr ⟨message, rfl⟩
  · rintro (hcondition | ⟨value, rfl, hlater⟩)
    · obtain ⟨message, rfl⟩ := hknown.breaks hcondition
      exact ⟨message, rfl⟩
    · exact (hnext value).breaks hlater

theorem RejectsUnless.map
    {convert : α → β}
    (hknown : RejectsUnless condition known) :
    RejectsUnless condition (known.map convert) := by
  constructor
  · intro hnot
    rcases hknown.rejects hnot with ⟨value, rfl⟩ | ⟨message, rfl⟩
    · exact Or.inl ⟨convert value, rfl⟩
    · exact Or.inr ⟨message, rfl⟩
  · intro hcondition
    obtain ⟨message, rfl⟩ := hknown.breaks hcondition
    exact ⟨message, rfl⟩

end Rules

namespace Version

open Decimal

/-- The runs of digits that are read as components. -/
def Parts.components (parts : Parts) : List (List Char) :=
  parts.major :: parts.minor :: parts.patch.toList

/-- The run of digits that numbers a build before the release. -/
def buildDigits? (qualifier : Option (List Char)) : Option (List Char) :=
  (qualifier.bind preRelease?).map Prod.snd

/-- There is such a build, or the qualifier names none. -/
def HasBuild (qualifier : Option (List Char)) : Prop :=
  ∀ digits ∈ buildDigits? qualifier, 1 ≤ naturalValue digits ∧ naturalValue digits ≤ 24

/-- The text has the right form, and a run of digits that is too long is read. -/
def IsOverlong (text : List Char) : Prop :=
  ∃ parts,
    Parts.ofChars? text = some parts ∧
    ((∃ digits ∈ buildDigits? parts.qualifier, digitLimit < digits.length) ∨
      HasBuild parts.qualifier ∧ ∃ digits ∈ parts.components, digitLimit < digits.length)

/-! ## Runs of digits -/

section Components

variable {digits : List Char}

theorem exists_component_eq_ok_iff
    (hrun : IsRun digits) :
    (∃ value, component digits = .ok value) ↔ ¬digitLimit < digits.length := by
  rw [Nat.not_lt]
  constructor
  · rintro ⟨value, hvalue⟩
    exact (component_eq_ok_iff.mp hvalue).2.1
  · intro hfits
    exact ⟨naturalValue digits, component_eq_ok_iff.mpr ⟨hrun, hfits, rfl⟩⟩

/-- A run of digits is read as a number unless it is too long. -/
theorem rejectsUnless_component
    (hrun : IsRun digits) :
    RejectsUnless (digitLimit < digits.length) (component digits) := by
  refine ⟨fun hfits => Or.inl ((exists_component_eq_ok_iff hrun).mpr hfits), fun hlong => ?_⟩
  cases hread : component digits with
  | ok value => exact absurd hlong ((exists_component_eq_ok_iff hrun).mp ⟨value, hread⟩)
  | error failure =>
      unfold component at hread
      split at hread
      · cases hread
      · next fault _ =>
          cases hread
          exact ⟨fault.message, rfl⟩

theorem isRun_of_preRelease?
    {kind : PreRelease} {inner : List Char}
    (hbuild : preRelease? inner = some (kind, digits)) :
    IsRun digits ∧ digits.length ≤ inner.length := by
  obtain ⟨⟨name, known⟩, _, hfound⟩ := List.exists_of_findSome?_eq_some hbuild
  simp only at hfound
  split at hfound
  · next hnamed =>
      cases hfound
      simp only [Bool.and_eq_true, Bool.not_eq_true', List.all_eq_true] at hnamed
      have hnonempty : inner.drop name.length ≠ [] := List.isEmpty_eq_false_iff.mp hnamed.1.2
      exact ⟨⟨hnonempty, hnamed.2⟩, by simp⟩
  · cases hfound

end Components

section Builds

variable {qualifier : Option (List Char)}

/-- The number of a build is in range, or it is rejected, or it has too many digits. -/
theorem buildOf_cases
    (text : String)
    (qualifier : Option (List Char)) :
    (¬(∃ digits ∈ buildDigits? qualifier, digitLimit < digits.length) ∧
      ((∃ build, buildOf text qualifier = .ok build ∧ HasBuild qualifier) ∨
        ∃ message, buildOf text qualifier = .error (.configuration message) ∧
          ¬HasBuild qualifier)) ∨
    (∃ digits ∈ buildDigits? qualifier, digitLimit < digits.length) ∧
      ∃ message, buildOf text qualifier = .error (.defect (.badValue message)) := by
  unfold buildOf HasBuild buildDigits?
  cases hnamed : qualifier.bind preRelease? with
  | none => exact Or.inl ⟨by simp, Or.inl ⟨_, rfl, by simp⟩⟩
  | some named =>
      obtain ⟨kind, digits⟩ := named
      obtain ⟨inner, _, hinner⟩ := Option.bind_eq_some_iff.mp hnamed
      have hrun := (isRun_of_preRelease? hinner).1
      simp only [Option.map_some, Option.mem_some_iff, forall_eq', exists_eq_left']
      by_cases hlong : digitLimit < digits.length
      · obtain ⟨message, hmessage⟩ := (rejectsUnless_component hrun).breaks hlong
        exact Or.inr ⟨hlong, message, by rw [hmessage]⟩
      · obtain ⟨number, hnumber⟩ := (exists_component_eq_ok_iff hrun).mpr hlong
        obtain rfl := (component_eq_ok_iff.mp hnumber).2.2
        rw [hnumber]
        refine Or.inl ⟨hlong, ?_⟩
        by_cases hrange : 1 ≤ naturalValue digits ∧ naturalValue digits ≤ 24
        · have hrange' : (1 : Int) ≤ naturalValue digits ∧ (naturalValue digits : Int) ≤ 24 := by
            omega
          exact Or.inl ⟨_, if_pos hrange', hrange⟩
        · have hrange' : ¬((1 : Int) ≤ naturalValue digits ∧ (naturalValue digits : Int) ≤ 24) := by
            omega
          exact Or.inr ⟨_, if_neg hrange', hrange⟩

theorem exists_buildOf_eq_ok_iff
    (text : String) :
    (∃ build, buildOf text qualifier = .ok build) ↔
      ¬(∃ digits ∈ buildDigits? qualifier, digitLimit < digits.length) ∧ HasBuild qualifier := by
  obtain ⟨hfits, ⟨build, hbuild, hhas⟩ | ⟨message, hbuild, hhas⟩⟩ | ⟨hlong, message, hbuild⟩ :=
    buildOf_cases text qualifier
  · exact iff_of_true ⟨build, hbuild⟩ ⟨hfits, hhas⟩
  · exact iff_of_false (by simp [hbuild]) fun hok => hhas hok.2
  · exact iff_of_false (by simp [hbuild]) fun hok => hok.1 hlong

theorem rejectsUnless_buildOf
    (text : String) :
    RejectsUnless (∃ digits ∈ buildDigits? qualifier, digitLimit < digits.length)
      (buildOf text qualifier) := by
  obtain ⟨hfits, ⟨build, hbuild, _⟩ | ⟨message, hbuild, _⟩⟩ | ⟨hlong, message, hbuild⟩ :=
    buildOf_cases text qualifier
  · exact ⟨fun _ => Or.inl ⟨build, hbuild⟩, fun hlong => absurd hlong hfits⟩
  · exact ⟨fun _ => Or.inr ⟨message, hbuild⟩, fun hlong => absurd hlong hfits⟩
  · exact ⟨fun hfits => absurd hlong hfits, fun _ => ⟨message, hbuild⟩⟩

end Builds

/-! ## Whole texts -/

section Texts

variable {text : List Char} {parts : Parts}

theorem isRun_of_mem_components
    {digits : List Char}
    (hparts : Parts.ofChars? text = some parts)
    (hmem : digits ∈ parts.components) :
    IsRun digits := by
  obtain ⟨rest, hsplits, htail⟩ := ofChars?_eq_some_iff.mp hparts
  simp only [Parts.components, List.mem_cons, Option.mem_toList] at hmem
  rcases hmem with rfl | rfl | hmem
  · exact hsplits.major_run
  · exact hsplits.minor_run
  · rcases htail with htail | ⟨_, hnone, _⟩
    · rw [Option.mem_def.mp hmem] at htail
      cases htail with
      | patch hrun _ => exact hrun
    · rw [hnone] at hmem
      cases hmem

/-- Without a patch component a zero is read. -/
theorem exists_patch
    (hparts : Parts.ofChars? text = some parts) :
    IsRun (parts.patch.getD ['0']) ∧
      (digitLimit < (parts.patch.getD ['0']).length ↔
        ∃ digits ∈ parts.patch, digitLimit < digits.length) := by
  cases hpatch : parts.patch with
  | none => exact ⟨isRun_digit (by decide), by simp [digitLimit]⟩
  | some digits =>
      have hmem : digits ∈ parts.components := by simp [Parts.components, hpatch]
      exact ⟨isRun_of_mem_components hparts hmem, by simp⟩

/-- The components are read one after the other, and break the reading off when one of them is too
long. -/
theorem rejectsUnless_components
    (hparts : Parts.ofChars? text = some parts)
    (build : Int) :
    RejectsUnless (∃ digits ∈ parts.components, digitLimit < digits.length) (do
      let major ← component parts.major
      let minor ← component parts.minor
      let patch ← component (parts.patch.getD ['0'])
      return (⟨major, minor, patch, build⟩ : Version)) := by
  have hmajor : IsRun parts.major := isRun_of_mem_components hparts (by simp [Parts.components])
  have hminor : IsRun parts.minor := isRun_of_mem_components hparts (by simp [Parts.components])
  obtain ⟨hpatch, hlong⟩ := exists_patch hparts
  refine RejectsUnless.congr ((rejectsUnless_component hmajor).bind fun _ =>
    (rejectsUnless_component hminor).bind fun _ =>
      (rejectsUnless_component hpatch).bind fun _ => rejectsUnless_ok _) ?_
  simp only [exists_and_right, exists_component_eq_ok_iff hmajor, exists_component_eq_ok_iff hminor,
    hlong, and_false, exists_false, or_false, Parts.components, List.mem_cons, Option.mem_toList,
    or_and_right, exists_or, exists_eq_left, Option.mem_def]
  tauto

/-- **Which texts break the reading off.** -/
theorem rejectsUnless_parse
    (text : String) :
    RejectsUnless (IsOverlong text.toList) (parse text) := by
  unfold parse
  cases hparts : Parts.ofChars? text.toList with
  | none =>
      refine (rejectsUnless_rejected _).congr (iff_of_false id ?_)
      rintro ⟨parts, hparts', _⟩
      cases hparts.symm.trans hparts'
  | some parts =>
      refine RejectsUnless.congr ((rejectsUnless_buildOf text).bind fun build =>
        rejectsUnless_components hparts build) ?_
      simp only [exists_and_right, exists_buildOf_eq_ok_iff, IsOverlong, hparts,
        Option.some.injEq, exists_eq_left']
      by_cases hlong : ∃ digits ∈ buildDigits? parts.qualifier, digitLimit < digits.length
      · simp only [hlong, true_or]
      · simp only [hlong, false_or, not_false_eq_true, true_and]

end Texts

/-! ## Short texts -/

section Lengths

variable {text rest inner : List Char} {parts : Parts} {patch qualifier : Option (List Char)}

theorem length_le_of_isQualifier
    (hqualifier : IsQualifier text (some inner)) :
    inner.length ≤ text.length := by
  cases hqualifier with
  | some => simp

theorem length_patch_le
    {digits : List Char}
    (htail : IsTail text (some digits) qualifier) :
    digits.length ≤ text.length := by
  cases htail with
  | @patch _ rest _ _ _ =>
      simp only [List.length_cons, List.length_append]
      omega

theorem length_qualifier_le
    (htail : IsTail text patch (some inner)) :
    inner.length ≤ text.length := by
  cases htail with
  | @patch digits rest _ _ hqualifier =>
      have hinner := length_le_of_isQualifier hqualifier
      simp only [List.length_cons, List.length_append]
      omega
  | bare _ hqualifier => exact length_le_of_isQualifier hqualifier

/-- No part of a text is longer than the text. -/
theorem length_le_of_ofChars?
    {digits : List Char}
    (hparts : Parts.ofChars? text = some parts)
    (hmem : digits ∈ parts.components ∨ digits ∈ buildDigits? parts.qualifier) :
    digits.length ≤ text.length := by
  obtain ⟨rest, hsplits, htail⟩ := ofChars?_eq_some_iff.mp hparts
  obtain ⟨front, mark, back, htext, _⟩ := hsplits.parts
  have hlength : text.length = front.length + mark.length + parts.major.length + 1 +
      parts.minor.length + rest.length + back.length := by
    rw [htext]
    simp only [List.length_append, List.length_cons]
    omega
  rcases hmem with hmem | hmem
  · simp only [Parts.components, List.mem_cons, Option.mem_toList] at hmem
    rcases hmem with rfl | rfl | hmem
    · omega
    · omega
    · rcases htail with htail | ⟨_, hnone, _⟩
      · rw [Option.mem_def.mp hmem] at htail
        have hpatch := length_patch_le htail
        omega
      · rw [hnone] at hmem
        cases hmem
  · obtain ⟨⟨kind, known⟩, hnamed, rfl⟩ := Option.map_eq_some_iff.mp hmem
    obtain ⟨inner, hinner, hbuild⟩ := Option.bind_eq_some_iff.mp hnamed
    have hdigits := (isRun_of_preRelease? hbuild).2
    have hqualifier : inner.length ≤ rest.length := by
      rcases htail with htail | ⟨_, _, hrest⟩
      · rw [hinner] at htail
        exact length_qualifier_le htail
      · rw [hrest, Option.some.injEq] at hinner
        simp [← hinner]
    simp only at hdigits ⊢
    omega

/-- A text with no more characters than a number may have digits is never too long. -/
theorem not_isOverlong_of_length
    (hshort : text.length ≤ digitLimit) :
    ¬IsOverlong text := by
  rintro ⟨parts, hparts, ⟨digits, hmem, hlong⟩ | ⟨_, digits, hmem, hlong⟩⟩
  · have hle := length_le_of_ofChars? hparts (Or.inr hmem)
    omega
  · have hle := length_le_of_ofChars? hparts (Or.inl hmem)
    omega

end Lengths

end Version
end RestartCheck
