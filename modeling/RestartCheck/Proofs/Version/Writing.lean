import RestartCheck.Failure
import RestartCheck.Proofs.Decimal.Writing

/-!
# Writing versions

The text of a version is made of the numbers in it.  There is none as soon as one of these numbers
has too many digits to be written, and otherwise it is the spelling of the version, in which every
number stands in full.

**Results.**
* `Version.text?_of_not_isUnwritten`: the text of a version is its spelling, if there is one.
* `Version.text?_eq_none_iff`, `Failure.versionText?_eq_none_iff`: which versions have no text.
* `Failure.missing_eq_iff`: how it is told that a capability is missing.
-/

namespace RestartCheck

namespace Version

open Decimal

variable {v : Version}

/-- The number that follows the kind of a build in the text of a version. -/
def numberOf (build : Int) : Int :=
  build - (PreRelease.ofBuild build).base

/-- The numbers that stand in the text of a version. -/
def numbers (v : Version) : List Int :=
  [v.major, v.minor, v.patch] ++ if v.isRelease then [] else [numberOf v.build]

/-- The version has no text, because one of the numbers in it is not written. -/
def IsUnwritten (v : Version) : Prop :=
  ∃ number ∈ v.numbers, IsOverlong number

instance (v : Version) : Decidable v.IsUnwritten :=
  inferInstanceAs (Decidable (∃ number ∈ v.numbers, IsOverlong number))

/-- The first three components in full. -/
def baseSpelling (v : Version) : String :=
  toString v.major ++ "." ++ toString v.minor ++ "." ++ toString v.patch

/-- The text of a version with all its numbers in full. -/
def spelling (v : Version) : String :=
  if v.isRelease then v.baseSpelling
  else
    v.baseSpelling ++ "-" ++ (PreRelease.ofBuild v.build).text ++ toString (numberOf v.build)

theorem text?_of_isUnwritten
    (hunwritten : v.IsUnwritten) :
    v.text? = none := by
  obtain ⟨number, hmem, hlong⟩ := hunwritten
  have hnone : integerText? number = none := integerText?_eq_none_iff.mpr hlong
  simp only [numbers, List.cons_append, List.nil_append, List.mem_cons] at hmem
  unfold text? baseText?
  rcases hmem with rfl | rfl | rfl | hmem
  · rw [hnone]
    rfl
  · rw [hnone]
    cases integerText? v.major <;> rfl
  · rw [hnone]
    cases integerText? v.major <;> cases integerText? v.minor <;> rfl
  · cases hrelease : v.isRelease with
    | true =>
        rw [hrelease] at hmem
        cases hmem
    | false =>
        rw [hrelease, if_neg Bool.false_ne_true, List.mem_singleton] at hmem
        subst hmem
        rw [numberOf] at hnone
        simp only [hnone, Bool.false_eq_true, if_false]
        cases integerText? v.major <;> cases integerText? v.minor <;>
          cases integerText? v.patch <;> rfl

/-- The text of a version is its spelling, when all numbers in it are written. -/
theorem text?_of_not_isUnwritten
    (hwritten : ¬v.IsUnwritten) :
    v.text? = some v.spelling := by
  have hnumber : ∀ number ∈ v.numbers, integerText? number = some (toString number) :=
    fun number hmem => integerText?_of_not_isOverlong fun hlong =>
      hwritten ⟨number, hmem, hlong⟩
  have hmajor := hnumber v.major (by simp [numbers])
  have hminor := hnumber v.minor (by simp [numbers])
  have hpatch := hnumber v.patch (by simp [numbers])
  have hbase : v.baseText? = some v.baseSpelling := by
    simp only [baseText?, hmajor, hminor, hpatch]
    rfl
  cases hrelease : v.isRelease with
  | true => simp [text?, hbase, spelling, hrelease]
  | false =>
      have hbuild := hnumber (numberOf v.build) (by simp [numbers, hrelease])
      rw [numberOf] at hbuild
      simp [text?, hbase, spelling, hrelease, hbuild, numberOf]

theorem text?_eq_none_iff :
    v.text? = none ↔ v.IsUnwritten := by
  by_cases hunwritten : v.IsUnwritten
  · exact iff_of_true (text?_of_isUnwritten hunwritten) hunwritten
  · rw [text?_of_not_isUnwritten hunwritten]
    exact iff_of_false (Option.some_ne_none _) hunwritten

/-- The first version whose first component is not written. -/
@[irreducible]
def unwritten : Version :=
  ⟨((10 ^ digitLimit : Nat) : Int), 0, 0, releaseBuild⟩

theorem isUnwritten_unwritten :
    unwritten.IsUnwritten := by
  refine ⟨unwritten.major, List.mem_cons_self, ?_⟩
  simp only [IsOverlong, unwritten, Int.natAbs_natCast, Nat.le_refl]

end Version

namespace Failure

variable {version : Option Version}

/-- Not naming any version is always possible. -/
theorem versionText?_eq_none_iff :
    versionText? version = none ↔ ∃ v, version = some v ∧ v.IsUnwritten := by
  cases version with
  | none => simp [versionText?]
  | some v => simp [versionText?, Version.text?_eq_none_iff]

/-- A failure tells that a version lacks a capability, or that the version is not written. -/
inductive TellsMissing
    (capability : String)
    (version : Option Version) : Failure → Prop
  | unsupported
      {text : String}
      (htext : versionText? version = some text) :
      TellsMissing capability version
        (.unsupported (missingMessage capability text) capability version)
  | unwritten
      {v : Version}
      (hversion : version = some v)
      (hunwritten : v.IsUnwritten) :
      TellsMissing capability version .unwritten

theorem missing_eq_iff
    {capability : String} {failure : Failure} :
    missing capability version = failure ↔ TellsMissing capability version failure := by
  constructor
  · rintro rfl
    cases htext : versionText? version with
    | some text =>
        rw [missing_of_some htext]
        exact .unsupported htext
    | none =>
        obtain ⟨v, hversion, hunwritten⟩ := versionText?_eq_none_iff.mp htext
        rw [missing_of_none htext]
        exact .unwritten hversion hunwritten
  · rintro (⟨htext⟩ | ⟨hversion, hunwritten⟩)
    · exact missing_of_some htext
    · exact missing_of_none (versionText?_eq_none_iff.mpr ⟨_, hversion, hunwritten⟩)

end Failure
end RestartCheck
