import RestartCheck.Proofs.Version.Rejection
import RestartCheck.Proofs.Version.RoundTrip
import RestartCheck.Run.Phase

/-!
# The inputs of a run

A run needs a phase and the version before the upgrade, and it may be told the version after it.
An input that is missing or malformed is rejected.  Only a version with a run of digits that is too
long to be read breaks the checking off, and only when all inputs in front of it are accepted.

**Results.**
* `rejectsUnless_choosePhase`, `rejectsUnless_chooseVersionText`: a missing input is rejected.
* `rejectsUnless_upgradedVersion`: the version after the upgrade.
* `rejectsUnless_ofSettings`: all inputs.
* `written_of_ofSettings`: the versions of a run can be written.
-/

namespace RestartCheck
namespace RunConfig

variable {settings : Settings} {phase oldVersion : Option String}

theorem rejectsUnless_choosePhase :
    RejectsUnless False (choosePhase settings phase) := by
  unfold choosePhase
  split
  · split
    · exact rejectsUnless_ok _
    · exact rejectsUnless_rejected _
  · split
    · exact rejectsUnless_ok _
    · exact rejectsUnless_rejected _

theorem rejectsUnless_chooseVersionText :
    RejectsUnless False (chooseVersionText settings oldVersion) := by
  unfold chooseVersionText
  split
  · exact rejectsUnless_ok _
  · exact rejectsUnless_rejected _

/-- The version after the upgrade is read when it is given and not empty. -/
theorem rejectsUnless_upgradedVersion
    (settings : Settings)
    (config : Option Version → RunConfig) :
    RejectsUnless (∃ upgraded ∈ settings.upgradedVersion, Version.IsOverlong upgraded.toList)
      (match settings.upgradedVersion.filter (· ≠ "") with
        | some text => (Version.parse text).map some >>= fun upgraded => .ok (config upgraded)
        | none => .ok (config none)) := by
  cases hgiven : settings.upgradedVersion.filter (· ≠ "") with
  | some text =>
      have htext := (Option.filter_eq_some_iff.mp hgiven).1
      refine RejectsUnless.congr ((Version.rejectsUnless_parse text).map.bind fun upgraded =>
        rejectsUnless_ok (config upgraded)) ?_
      simp [htext]
  | none =>
      refine (rejectsUnless_ok _).congr (iff_of_false id ?_)
      rintro ⟨upgraded, hupgraded, hoverlong⟩
      have hempty : upgraded = "" := by
        have hnone := Option.filter_eq_none_iff.mp hgiven upgraded hupgraded
        simpa using hnone
      subst hempty
      exact Version.not_isOverlong_of_length (Nat.zero_le _) hoverlong

/-- A version with a run of digits that is too long is read: the one before the upgrade once the
phase is known, and the one after the upgrade once the one before it is accepted. -/
def ReadsOverlong
    (settings : Settings)
    (phase oldVersion : Option String) : Prop :=
  (∃ known, choosePhase settings phase = .ok known) ∧
  ∃ text,
    chooseVersionText settings oldVersion = .ok text ∧
    (Version.IsOverlong text.toList ∨
      (∃ old, Version.parse text = .ok old) ∧
        ∃ upgraded ∈ settings.upgradedVersion, Version.IsOverlong upgraded.toList)

/-- The inputs are checked one after the other. -/
theorem rejectsUnless_ofSettings
    (settings : Settings)
    (phase oldVersion : Option String) :
    RejectsUnless (ReadsOverlong settings phase oldVersion)
      (ofSettings settings phase oldVersion) := by
  refine RejectsUnless.congr (rejectsUnless_choosePhase.bind fun known =>
    rejectsUnless_chooseVersionText.bind fun text =>
      (Version.rejectsUnless_parse text).bind fun old =>
        rejectsUnless_upgradedVersion settings (RunConfig.mk known old)) ?_
  simp only [ReadsOverlong, false_or, exists_and_right]

/-- The versions that are read from the inputs can be written. -/
theorem written_of_ofSettings
    {config : RunConfig}
    (hconfig : ofSettings settings phase oldVersion = .ok config) :
    ¬config.oldVersion.IsUnwritten ∧
      ∀ version, config.upgradedVersion = some version → ¬version.IsUnwritten := by
  have hwritten : ∀ text version, Version.parse text = .ok version → ¬version.IsUnwritten :=
    fun _ _ hparse => (Version.isWritable_of_parse hparse).not_isUnwritten
  unfold ofSettings at hconfig
  simp only [Json.bind_eq_ok_iff] at hconfig
  obtain ⟨known, _, text, _, old, hold, hend⟩ := hconfig
  cases hgiven : settings.upgradedVersion.filter (· ≠ "") with
  | none =>
      rw [hgiven] at hend
      cases hend
      exact ⟨hwritten text old hold, nofun⟩
  | some given =>
      rw [hgiven] at hend
      obtain ⟨upgraded, hupgraded, hmade⟩ := Json.bind_eq_ok_iff.mp hend
      cases hmade
      cases hparse : Version.parse given with
      | error failure => simp [hparse, Except.map] at hupgraded
      | ok version =>
          rw [hparse] at hupgraded
          cases hupgraded
          refine ⟨hwritten text old hold, ?_⟩
          rintro _ ⟨⟩
          exact hwritten given version hparse

/-- The version that answers requests can be written, too. -/
theorem written_servingVersion
    {config : RunConfig} {version : Version}
    (hconfig : ofSettings settings phase oldVersion = .ok config)
    (hversion : config.servingVersion = some version) :
    ¬version.IsUnwritten := by
  obtain ⟨hold, hupgraded⟩ := written_of_ofSettings hconfig
  unfold servingVersion at hversion
  split at hversion
  · cases hversion
    exact hold
  · exact hupgraded version hversion

end RunConfig
end RestartCheck
