import Mathlib.Data.List.Pairwise
import Mathlib.Tactic.ByContra
import RestartCheck.Proofs.Capability.Support
import RestartCheck.Proofs.Version.Writing

/-!
# What a lookup finds

A table is made of entries in any order.  Two entries of one capability and minimum version make it
ambiguous, and then there is no table.  Otherwise one row at most is in force for a capability at a
version: the one with the greatest minimum version among those that apply.

When no row applies, the failure tells the version.  A version that is not written cannot be told,
and then the lookup ends with that defect.

**Results.**
* `ofEntries_cases`: a table of all entries, or the first entry that repeats an earlier one.
* `entry_eq_ok_iff`, `entry_eq_error_iff`: a lookup finds the row in force, if there is one.
* `supports_eq_false_iff`, `supports_eq_error_iff`: when support is denied, and when it is not told.
* `entry_congr`: the order of the entries makes no difference.
* `finds_row_in_force`: all of this, and that later versions find later rows.
-/

namespace RestartCheck

namespace Version

variable {a b : Version}

theorem compare_eq_eq_iff :
    a.compare b = .eq ↔ a = b := by
  constructor
  · intro hcompare
    simp only [compare, Ordering.then_eq_eq, Int.compare_eq_eq] at hcompare
    obtain ⟨hmajor, hminor, hpatch, hbuild⟩ := hcompare
    cases a
    cases b
    simp_all
  · rintro rfl
    exact compare_self a

theorem le_antisymm
    (hle : a ≤ b)
    (hge : b ≤ a) :
    a = b := by
  have hne : ¬a < b := fun hlt => lt_iff_not_le.mp hlt hge
  change a.compare b ≠ .gt at hle
  change ¬a.compare b = .lt at hne
  refine compare_eq_eq_iff.mp ?_
  cases hcompare : a.compare b with
  | lt => exact absurd hcompare hne
  | eq => rfl
  | gt => exact absurd hcompare hle

theorem lt_of_le_of_ne
    (hle : a ≤ b)
    (hne : a ≠ b) :
    a < b :=
  lt_iff_not_le.mpr fun hge => hne (le_antisymm hle hge)

theorem le_of_lt
    (hlt : a < b) :
    a ≤ b := by
  change a.compare b = .lt at hlt
  change a.compare b ≠ .gt
  rw [hlt]
  decide

end Version

namespace CapabilityEntry

/-- The row describes the capability at the version. -/
def Applies
    (row : CapabilityEntry)
    (capability : String)
    (version : Option Version) : Prop :=
  row.capability = capability ∧ row.minVersion.Precedes version

/-- The row applies, and every other row that does has a smaller minimum version. -/
structure IsInForce
    (entries : List CapabilityEntry)
    (capability : String)
    (version : Option Version)
    (row : CapabilityEntry) : Prop where
  listed : row ∈ entries
  applies : row.Applies capability version
  greatest : ∀ other ∈ entries,
    other.Applies capability version → other ≠ row → other.minVersion < row.minVersion

section Newest

variable {entries : List CapabilityEntry} {capability : String} {version : Option Version}
  {row other : CapabilityEntry}

/-- No entry is newer than the newest one. -/
theorem le_of_newest?_eq_some
    (hnewest : newest? entries = some row)
    (hmem : other ∈ entries) :
    other.minVersion ≤ row.minVersion := by
  induction entries generalizing row with
  | nil => cases hmem
  | cons first rest ih =>
      simp only [newest?] at hnewest
      cases hrest : newest? rest with
      | none =>
          rw [hrest] at hnewest
          cases hnewest
          rw [newest?_eq_none_iff] at hrest
          subst hrest
          obtain rfl := List.mem_singleton.mp hmem
          exact Version.le_refl _
      | some newest =>
          rw [hrest] at hnewest
          by_cases hlt : first.minVersion < newest.minVersion
          · simp only [hlt, if_true, Option.some.injEq] at hnewest
            subst hnewest
            rcases List.mem_cons.mp hmem with rfl | hmem
            · exact Version.le_of_lt hlt
            · exact ih hrest hmem
          · simp only [hlt, if_false, Option.some.injEq] at hnewest
            subst hnewest
            have hle : newest.minVersion ≤ first.minVersion :=
              Decidable.not_not.mp fun hnot => hlt (Version.lt_iff_not_le.mpr hnot)
            rcases List.mem_cons.mp hmem with rfl | hmem
            · exact Version.le_refl _
            · exact Version.le_trans (ih hrest hmem) hle

/-- There are no two rows in force. -/
theorem IsInForce.unique
    (hrow : IsInForce entries capability version row)
    (hother : IsInForce entries capability version other) :
    row = other := by
  by_contra hne
  have hlt := hother.greatest row hrow.listed hrow.applies hne
  have hgt := hrow.greatest other hother.listed hother.applies (Ne.symm hne)
  exact Version.lt_iff_not_le.mp hlt (Version.le_of_lt hgt)

/-- Which row is in force does not depend on the order of the entries. -/
theorem IsInForce.congr
    {entries' : List CapabilityEntry}
    (hrow : IsInForce entries capability version row)
    (hsame : ∀ entry, entry ∈ entries ↔ entry ∈ entries') :
    IsInForce entries' capability version row where
  listed := (hsame row).mp hrow.listed
  applies := hrow.applies
  greatest other hmem := hrow.greatest other ((hsame other).mpr hmem)

end Newest

end CapabilityEntry

namespace CapabilityTable

open CapabilityEntry

/-! ## Tables -/

/-- Two entries, however far apart, describe one capability from the same version on. -/
def IsAmbiguous (entries : List CapabilityEntry) : Prop :=
  ∃ (i j : Nat) (hi : i < entries.length) (hj : j < entries.length),
    i < j ∧ entries[i].Clashes entries[j]

/-- The entry repeats an earlier one, and no entry in front of it does. -/
def IsFirstRepeat
    (entries : List CapabilityEntry)
    (entry : CapabilityEntry) : Prop :=
  ∃ front back,
    entries = front ++ entry :: back ∧
    ¬IsAmbiguous front ∧
    ∃ earlier ∈ front, earlier.Clashes entry

section Tables

variable {entries earlier rest : List CapabilityEntry}

theorem not_isAmbiguous_iff :
    ¬IsAmbiguous entries ↔ entries.Pairwise fun a b => ¬a.Clashes b := by
  rw [List.pairwise_iff_getElem]
  simp only [IsAmbiguous, not_exists, not_and]

/-- Entries that clash do so from either side. -/
theorem not_clashes_symm
    {a b : CapabilityEntry}
    (hclash : ¬a.Clashes b) :
    ¬b.Clashes a :=
  fun hback => hclash ⟨hback.1.symm, hback.2.symm⟩

instance : Std.Symm fun a b : CapabilityEntry => ¬a.Clashes b :=
  ⟨fun _ _ => not_clashes_symm⟩

theorem isAmbiguous_of_perm
    {entries' : List CapabilityEntry}
    (hperm : entries.Perm entries') :
    IsAmbiguous entries ↔ IsAmbiguous entries' := by
  rw [← not_iff_not, not_isAmbiguous_iff, not_isAmbiguous_iff]
  exact hperm.pairwise_iff not_clashes_symm

/-- Going through the entries finds the first repetition, or that there is none. -/
theorem firstClash?_cases
    (rest : List CapabilityEntry)
    (hdistinct : ¬IsAmbiguous earlier.reverse) :
    (∃ entry,
      firstClash? earlier rest = some entry ∧ IsFirstRepeat (earlier.reverse ++ rest) entry) ∨
      ¬IsAmbiguous (earlier.reverse ++ rest) := by
  induction rest generalizing earlier with
  | nil =>
      right
      rwa [List.append_nil]
  | cons entry rest ih =>
      by_cases hclash : ∃ other ∈ earlier, other.Clashes entry
      · left
        obtain ⟨other, hother, hsame⟩ := hclash
        refine ⟨entry, ?_, earlier.reverse, rest, rfl, hdistinct, other, by simpa using hother,
          hsame⟩
        have hany : earlier.any (fun other => decide (other.Clashes entry)) = true :=
          List.any_eq_true.mpr ⟨other, hother, decide_eq_true hsame⟩
        rw [firstClash?, if_pos hany]
      · have hany : ¬earlier.any (fun other => decide (other.Clashes entry)) = true := by
          simpa using hclash
        have hgrown : ¬IsAmbiguous (entry :: earlier).reverse := by
          rw [not_isAmbiguous_iff] at hdistinct ⊢
          rw [List.reverse_cons, List.pairwise_append]
          refine ⟨hdistinct, List.pairwise_singleton _ _, fun other hother last hlast => ?_⟩
          obtain rfl := List.mem_singleton.mp hlast
          exact fun hsame => hclash ⟨other, List.mem_reverse.mp hother, hsame⟩
        have hrest := ih hgrown
        rw [List.reverse_cons, List.append_assoc, List.singleton_append] at hrest
        rwa [firstClash?, if_neg hany]

/-- The entry whose repetition is reported is the first one. -/
theorem IsFirstRepeat.isAmbiguous
    {entry : CapabilityEntry}
    (hrepeat : IsFirstRepeat entries entry) :
    IsAmbiguous entries := by
  obtain ⟨front, back, rfl, _, other, hother, hsame⟩ := hrepeat
  by_contra hdistinct
  rw [not_isAmbiguous_iff, List.pairwise_append] at hdistinct
  exact hdistinct.2.2 other hother entry List.mem_cons_self hsame

/-- What is reported about an entry that repeats an earlier one: its capability and version, or that
the version is not written. -/
theorem duplicate_eq_badValue
    (entry : CapabilityEntry) :
    ∃ message,
      duplicate entry = .defect (.badValue message) ∧
      ∀ text, entry.minVersion.text? = some text →
        message = "duplicate entry for [" ++ entry.capability ++ "] at " ++ text := by
  unfold duplicate
  cases htext : entry.minVersion.text? with
  | none => exact ⟨_, rfl, by simp⟩
  | some text =>
      refine ⟨_, rfl, fun other hother => ?_⟩
      rw [Option.some.injEq] at hother
      rw [hother]

/-- The entries make a table, or one of them is the first to repeat an earlier one. -/
theorem ofEntries_cases
    (entries : List CapabilityEntry) :
    (∃ table,
      ofEntries entries = .ok table ∧ table.entries = entries ∧ ¬IsAmbiguous entries) ∨
      ∃ entry,
        IsFirstRepeat entries entry ∧ ofEntries entries = .error (duplicate entry) := by
  unfold ofEntries
  by_cases hdistinct : entries.Pairwise fun a b => ¬a.Clashes b
  · left
    rw [dif_pos hdistinct]
    exact ⟨_, rfl, rfl, not_isAmbiguous_iff.mpr hdistinct⟩
  · right
    rw [dif_neg hdistinct]
    have hnone : ¬IsAmbiguous ([] : List CapabilityEntry).reverse :=
      not_isAmbiguous_iff.mpr List.Pairwise.nil
    obtain ⟨entry, hfirst, hrepeat⟩ | hall := firstClash?_cases entries hnone
    · exact ⟨entry, hrepeat, by rw [hfirst, Option.getD_some]⟩
    · exact absurd (not_isAmbiguous_iff.mp hall) hdistinct

end Tables

/-! ## Lookups -/

section Lookups

variable {table table' : CapabilityTable} {capability : String} {version : Option Version}
  {row : CapabilityEntry} {failure : Failure}

theorem mem_applicable_iff :
    row ∈ applicable (table.rows capability) version ↔
      row ∈ table.entries ∧ row.Applies capability version := by
  cases version with
  | none => simp [applicable, rows, Applies, Version.Precedes]
  | some known => simp [applicable, rows, Applies, Version.Precedes, and_assoc, and_comm]

/-- Rows that apply have different minimum versions. -/
theorem minVersion_ne
    {other : CapabilityEntry}
    (hrow : row ∈ table.entries)
    (hother : other ∈ table.entries)
    (hsame : other.capability = row.capability)
    (hne : other ≠ row) :
    other.minVersion ≠ row.minVersion := by
  intro hversion
  exact table.distinct.forall hother hrow hne ⟨hsame, hversion⟩

theorem isInForce_of_newest?
    (hnewest : newest? (applicable (table.rows capability) version) = some row) :
    IsInForce table.entries capability version row := by
  obtain ⟨hrow, happlies⟩ := mem_applicable_iff.mp (mem_of_newest?_eq_some hnewest)
  refine ⟨hrow, happlies, fun other hother hothers hne => ?_⟩
  have hle := le_of_newest?_eq_some hnewest (mem_applicable_iff.mpr ⟨hother, hothers⟩)
  exact Version.lt_of_le_of_ne hle
    (minVersion_ne hrow hother (hothers.1.trans happlies.1.symm) hne)

theorem newest?_eq_none_iff_not_applies :
    newest? (applicable (table.rows capability) version) = none ↔
      ∀ row ∈ table.entries, ¬row.Applies capability version := by
  rw [newest?_eq_none_iff, List.eq_nil_iff_forall_not_mem]
  simp only [mem_applicable_iff, not_and]

/-- A lookup fails when no row applies. -/
theorem entry_eq_error_iff :
    table.entry capability version = .error failure ↔
      (∀ row ∈ table.entries, ¬row.Applies capability version) ∧
        failure.TellsMissing capability version := by
  rw [entry_eq_elim, ← newest?_eq_none_iff_not_applies, ← Failure.missing_eq_iff]
  cases newest? (applicable (table.rows capability) version) with
  | none => simp
  | some row => simp

/-- A failed lookup tells that the capability is missing, or that the version is not written. -/
theorem tellsMissing_of_resolve
    (hfailed : table.resolve capability version = .error failure) :
    failure.TellsMissing capability version :=
  Failure.missing_eq_iff.mp (eq_missing_of_resolve hfailed).symm

/-- A lookup finds the row in force. -/
theorem entry_eq_ok_iff :
    table.entry capability version = .ok row ↔
      IsInForce table.entries capability version row := by
  rw [entry_eq_elim]
  cases hnewest : newest? (applicable (table.rows capability) version) with
  | none =>
      refine iff_of_false (by simp) fun hrow => ?_
      have hmem := mem_applicable_iff.mpr ⟨hrow.listed, hrow.applies⟩
      rw [newest?_eq_none_iff.mp hnewest] at hmem
      cases hmem
  | some newest =>
      have hforce := isInForce_of_newest? hnewest
      simp only [Option.elim_some, Except.ok.injEq]
      constructor
      · rintro rfl
        exact hforce
      · exact fun hrow => hforce.unique hrow

/-- Lookups see nothing of a table but which rows it has. -/
theorem entry_congr
    (hsame : ∀ row, row ∈ table.entries ↔ row ∈ table'.entries) :
    table.entry capability version = table'.entry capability version := by
  cases hentry : table.entry capability version with
  | ok row => exact (entry_eq_ok_iff.mpr ((entry_eq_ok_iff.mp hentry).congr hsame)).symm
  | error failure =>
      obtain ⟨hnone, hfailure⟩ := entry_eq_error_iff.mp hentry
      refine (entry_eq_error_iff.mpr ⟨fun row hmem => hnone row ?_, hfailure⟩).symm
      exact (hsame row).mpr hmem

/-- Support is denied when no row applies, unless the version cannot be told. -/
theorem supports_eq_false_iff :
    table.supports capability version = .ok false ↔
      (∀ row ∈ table.entries, ¬row.Applies capability version) ∧
        ∀ v, version = some v → ¬v.IsUnwritten := by
  unfold supports
  cases hentry : table.entry capability version with
  | ok row =>
      have hrow := entry_eq_ok_iff.mp hentry
      simpa using fun hnone => absurd hrow.applies (hnone row hrow.listed)
  | error failure =>
      obtain ⟨hnone, htells⟩ := entry_eq_error_iff.mp hentry
      cases htells with
      | unsupported htext =>
          refine iff_of_true rfl ⟨hnone, fun v hversion hunwritten => ?_⟩
          rw [Failure.versionText?_eq_none_iff.mpr ⟨v, hversion, hunwritten⟩] at htext
          cases htext
      | unwritten hversion hunwritten =>
          exact iff_of_false (by simp [Failure.unwritten]) fun h => h.2 _ hversion hunwritten

/-- Whether there is support is not told when no row applies to a version that is not written. -/
theorem supports_eq_error_iff :
    table.supports capability version = .error failure ↔
      (∀ row ∈ table.entries, ¬row.Applies capability version) ∧
        (∃ v, version = some v ∧ v.IsUnwritten) ∧ failure = .unwritten := by
  unfold supports
  cases hentry : table.entry capability version with
  | ok row =>
      have hrow := entry_eq_ok_iff.mp hentry
      simpa using fun hnone => absurd hrow.applies (hnone row hrow.listed)
  | error known =>
      obtain ⟨hnone, htells⟩ := entry_eq_error_iff.mp hentry
      cases htells with
      | unsupported htext =>
          refine iff_of_false (by simp) fun ⟨_, hunwritten, _⟩ => ?_
          rw [Failure.versionText?_eq_none_iff.mpr hunwritten] at htext
          cases htext
      | unwritten hversion hunwritten =>
          simp only [Failure.unwritten, Except.error.injEq]
          exact ⟨fun h => ⟨hnone, ⟨_, hversion, hunwritten⟩, h.symm⟩, fun h => h.2.2.symm⟩

/-- A later version finds a row, and none that is older. -/
theorem exists_entry_of_precedes
    {earlier : Version}
    (hlater : earlier.Precedes version)
    (hrow : table.entry capability (some earlier) = .ok row) :
    ∃ later, table.entry capability version = .ok later ∧ row.minVersion ≤ later.minVersion := by
  have hforce := entry_eq_ok_iff.mp hrow
  have hsupports := supports_mono (supports_iff_exists_entry.mpr ⟨row, hrow⟩) hlater
  obtain ⟨later, hfound⟩ := supports_iff_exists_entry.mp hsupports
  refine ⟨later, hfound, ?_⟩
  have happlies : row.Applies capability version := by
    refine ⟨hforce.applies.1, fun known hknown => ?_⟩
    exact Version.le_trans (hforce.applies.2 earlier rfl) (hlater known hknown)
  by_cases hsame : row = later
  · rw [hsame]
    exact Version.le_refl _
  · exact Version.le_of_lt ((entry_eq_ok_iff.mp hfound).greatest row hforce.listed happlies hsame)

end Lookups

/-- **What a table looks up.**  Entries make a table unless two of them, at any distance, share the
capability and the minimum version; then the first one that repeats an earlier one is reported.

A lookup in the table finds the row in force, which is the one with the greatest minimum version
that is not above the given version, or the greatest of all without a version.  When there is none,
the failure says that the capability is not supported, or that the version is not written, if it is
not; the same holds for asking whether there is support.  The order of the entries makes no
difference, and a later version finds a row that is no older. -/
theorem finds_row_in_force
    (entries : List CapabilityEntry) :
    ((∃ failure, ofEntries entries = .error failure) ↔ IsAmbiguous entries) ∧
    (∀ failure, ofEntries entries = .error failure →
      ∃ entry message,
        IsFirstRepeat entries entry ∧
        failure = .defect (.badValue message) ∧
        ∀ text, entry.minVersion.text? = some text →
          message = "duplicate entry for [" ++ entry.capability ++ "] at " ++ text) ∧
    ∀ table, ofEntries entries = .ok table →
      (∀ capability version,
        (∀ row, table.entry capability version = .ok row ↔
          IsInForce entries capability version row) ∧
        (∀ failure, table.entry capability version = .error failure ↔
          (∀ row ∈ entries, ¬row.Applies capability version) ∧
            failure.TellsMissing capability version) ∧
        (table.supports capability version = .ok true ↔
          ∃ row, IsInForce entries capability version row) ∧
        (table.supports capability version = .ok false ↔
          (∀ row ∈ entries, ¬row.Applies capability version) ∧
            ∀ v, version = some v → ¬v.IsUnwritten)) ∧
      (∀ entries', entries.Perm entries' →
        ∃ table',
          ofEntries entries' = .ok table' ∧
          ∀ capability version,
            table'.entry capability version = table.entry capability version ∧
            table'.supports capability version = table.supports capability version) ∧
      ∀ (capability : String) (earlier : Version) (version : Option Version),
        earlier.Precedes version →
        (table.supports capability (some earlier) = .ok true →
          table.supports capability version = .ok true) ∧
        ∀ row, table.entry capability (some earlier) = .ok row →
          ∃ later,
            table.entry capability version = .ok later ∧ row.minVersion ≤ later.minVersion := by
  obtain ⟨table, hmade, hentries, hdistinct⟩ | ⟨entry, hrepeat, hfailed⟩ := ofEntries_cases entries
  · refine ⟨iff_of_false (by simp [hmade]) hdistinct, fun failure hfailed => ?_, ?_⟩
    · cases hmade.symm.trans hfailed
    · intro table' hmade'
      cases hmade.symm.trans hmade'
      refine ⟨fun capability version => ?_, fun entries' hperm => ?_, ?_⟩
      · subst hentries
        refine ⟨fun row => entry_eq_ok_iff, fun failure => entry_eq_error_iff, ?_,
          supports_eq_false_iff⟩
        simp only [supports_iff_exists_entry, entry_eq_ok_iff]
      · have hother : ¬IsAmbiguous entries' := mt (isAmbiguous_of_perm hperm).mpr hdistinct
        obtain ⟨table', hmade', hentries', _⟩ | ⟨entry, hrepeat, _⟩ := ofEntries_cases entries'
        · refine ⟨table', hmade', fun capability version => ?_⟩
          have hlookup : table'.entry capability version = table.entry capability version := by
            refine entry_congr fun row => ?_
            rw [hentries, hentries', hperm.mem_iff]
          exact ⟨hlookup, by rw [supports, hlookup, supports]⟩
        · exact absurd hrepeat.isAmbiguous hother
      · intro capability earlier version hlater
        exact ⟨fun hsupports => supports_mono hsupports hlater, fun row =>
          exists_entry_of_precedes hlater⟩
  · refine ⟨iff_of_true ⟨_, hfailed⟩ hrepeat.isAmbiguous, fun failure hknown => ?_, ?_⟩
    · obtain rfl := Except.error.inj (hfailed.symm.trans hknown)
      obtain ⟨message, hmessage, htext⟩ := duplicate_eq_badValue entry
      exact ⟨entry, message, hrepeat, hmessage, htext⟩
    · intro table hmade
      cases hfailed.symm.trans hmade

/-- No capability is in an empty table, and yet at a version that is not written neither a lookup
nor the question for support says so: both end with the defect of writing the version. -/
theorem withholds_at_unwritten :
    ∃ table,
      ofEntries [] = .ok table ∧
      (∀ row ∈ ([] : List CapabilityEntry), ¬row.Applies "storage.format" (some .unwritten)) ∧
      table.entry "storage.format" (some .unwritten) = .error .unwritten ∧
      (∀ message, Failure.unwritten ≠
        .unsupported message "storage.format" (some .unwritten)) ∧
      table.supports "storage.format" (some .unwritten) = .error .unwritten := by
  have hnone : ∀ row ∈ ([] : List CapabilityEntry),
      ¬row.Applies "storage.format" (some .unwritten) := List.forall_mem_nil _
  refine ⟨⟨[], List.Pairwise.nil⟩, rfl, hnone, ?_, ?_, ?_⟩
  · exact entry_eq_error_iff.mpr ⟨hnone, .unwritten rfl Version.isUnwritten_unwritten⟩
  · intro message
    simp [Failure.unwritten]
  · exact supports_eq_error_iff.mpr ⟨hnone, ⟨_, rfl, Version.isUnwritten_unwritten⟩, rfl⟩

/-- A row from the first release of a major version on. -/
def majorRow (major : Int) : CapabilityEntry :=
  ⟨"storage.format", ⟨major, 0, 0, Version.releaseBuild⟩, [("format", .int major)]⟩

/-- Three rows of one capability out of order, and one of another capability among them. -/
def unsortedRows : List CapabilityEntry :=
  [majorRow 3, majorRow 1, ⟨"storage.codec", ⟨2, 5, 0, Version.releaseBuild⟩, []⟩, majorRow 2]

theorem distinct_unsortedRows :
    unsortedRows.Pairwise fun a b => ¬a.Clashes b := by
  decide

/-- The rows are looked up by their minimum versions, and in reversed order just the same.  A build
before the first release of all is not described.  One more row for a version that there is makes
the rows ambiguous. -/
theorem finds_row_in_unsortedRows :
    (∃ table,
      ofEntries unsortedRows = .ok table ∧
      IsInForce unsortedRows "storage.format" (some ⟨2, 5, 0, 99⟩) (majorRow 2) ∧
      IsInForce unsortedRows "storage.format" none (majorRow 3) ∧
      (∀ row ∈ unsortedRows, ¬row.Applies "storage.format" (some ⟨1, 0, 0, 24⟩)) ∧
      (∃ later,
        table.entry "storage.format" (some ⟨3, 0, 0, 99⟩) = .ok later ∧
        (majorRow 2).minVersion ≤ later.minVersion) ∧
      ∃ table',
        ofEntries unsortedRows.reverse = .ok table' ∧
        table'.entry "storage.format" (some ⟨2, 5, 0, 99⟩) = .ok (majorRow 2)) ∧
    ∃ failure entry,
      ofEntries (unsortedRows ++ [majorRow 1]) = .error failure ∧
      IsFirstRepeat (unsortedRows ++ [majorRow 1]) entry := by
  constructor
  · have hmade : ofEntries unsortedRows = .ok ⟨unsortedRows, distinct_unsortedRows⟩ :=
      dif_pos distinct_unsortedRows
    obtain ⟨_, _, hlookups⟩ := finds_row_in_force unsortedRows
    obtain ⟨hfound, hreordered, hlater⟩ := hlookups _ hmade
    have hsecond : CapabilityTable.entry ⟨unsortedRows, distinct_unsortedRows⟩ "storage.format"
        (some ⟨2, 5, 0, 99⟩) = .ok (majorRow 2) := by rfl
    refine ⟨_, hmade, ((hfound _ _).1 _).mp hsecond, ((hfound _ _).1 _).mp (by rfl),
      (((hfound _ _).2.1 (.missing "storage.format" (some ⟨1, 0, 0, 24⟩))).mp (by rfl)).1, ?_, ?_⟩
    · refine (hlater "storage.format" ⟨2, 5, 0, 99⟩ (some ⟨3, 0, 0, 99⟩) ?_).2 _ hsecond
      rintro _ ⟨⟩
      decide
    · obtain ⟨table', hmade', hsame⟩ := hreordered _ (List.reverse_perm unsortedRows).symm
      exact ⟨table', hmade', (hsame _ _).1.trans hsecond⟩
  · obtain ⟨hfailed, hfirst, _⟩ := finds_row_in_force (unsortedRows ++ [majorRow 1])
    obtain ⟨failure, hfailure⟩ := hfailed.mpr ⟨1, 4, by decide, by decide, by decide, by decide⟩
    obtain ⟨entry, _, hrepeat, _⟩ := hfirst failure hfailure
    exact ⟨failure, entry, hfailure, hrepeat⟩

end CapabilityTable
end RestartCheck
