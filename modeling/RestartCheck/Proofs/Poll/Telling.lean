import RestartCheck.Proofs.Decimal.Writing
import RestartCheck.Proofs.Json.Decoded
import RestartCheck.Proofs.Poll.Trials

/-!
# Polls that can tell what they have seen

What a trial has seen is logged and goes into messages.  It *can be told* when neither is ever kept
from happening: texts can, objects of texts, and every integer that was decoded.

**Results.**
* `Observed.isTellable_text`, `Observed.isTellable_texts`, `Observed.isTellable_int`: what can be
  told.
* `Json.IsWritable.of_decode`: every integer that was decoded can be written.
* `Poll.Trial.comesTo_of_isTellable`: a trial that can tell what it has seen ends the poll by its
  outcome.
-/

namespace RestartCheck

/-- The value can be written in every log entry and told in every message. -/
structure Observed.IsTellable (seen : Observed) : Prop where
  logged : ∀ session level, Session.obstacle? session level seen = none
  told : ∃ text, seen.told = .ok text

namespace Json

/-- Every integer in the value can be written. -/
inductive IsWritable : Json → Prop
  | null : IsWritable .null
  | bool (value : Bool) : IsWritable (.bool value)
  | int {value : Int} (hfits : ¬Decimal.IsOverlong value) : IsWritable (.int value)
  | float (value : Float) : IsWritable (.float value)
  | string (value : String) : IsWritable (.string value)
  | array {items : List Json} (hitems : ∀ item ∈ items, IsWritable item) :
      IsWritable (.array items)
  | object {members : Members} (hmembers : ∀ member ∈ members, IsWritable member.2) :
      IsWritable (.object members)

namespace IsWritable

theorem of_words
    {word : List Char × Json}
    (hword : word ∈ words) :
    IsWritable word.2 := by
  simp only [words, List.mem_cons, List.not_mem_nil, or_false] at hword
  rcases hword with rfl | rfl | rfl | rfl | rfl | rfl
  · exact .null
  · exact .bool true
  · exact .bool false
  · exact .float _
  · exact .float _
  · exact .float _

/-- The digits of an integer were counted when it was read. -/
theorem of_number
    {number : NumberText} {value : Json}
    (hvalue : number.value = .ok value) :
    IsWritable value := by
  unfold NumberText.value at hvalue
  split at hvalue
  · split at hvalue
    · next n hread =>
        cases hvalue
        refine .int (Decimal.not_isOverlong_of_readNatural hread ?_)
        split
        · exact Int.natAbs_neg _
        · rfl
    · cases hvalue
  · cases hvalue
    exact .float _

theorem isInherited : IsInherited IsWritable where
  word _ := of_words
  number _ _ := of_number
  text := .string
  array _ := .array
  object _ hpairs := .object (OrderedMap.forall_mem_ofPairs hpairs)

/-- Every integer that was decoded can be written. -/
theorem of_decode
    {text : String} {data : Json}
    (hdecode : decode text = .ok data) :
    IsWritable data :=
  isInherited.of_decode hdecode

theorem of_lookup
    {members : Members} {name : String} {value : Json}
    (hwritable : IsWritable (.object members))
    (hlookup : OrderedMap.lookup members name = some value) :
    IsWritable value := by
  cases hwritable with
  | object hmembers => exact hmembers _ (OrderedMap.mem_of_lookup_eq_some hlookup)

end IsWritable

section Texts

variable {members : Members}

/-- All members of the object are texts. -/
def AreTexts (members : Members) : Prop :=
  ∀ member ∈ members, ∃ text, member.2 = .string text

theorem fitsMembers_of_areTexts
    (htexts : AreTexts members)
    (levels : Nat) :
    Redaction.fitsMembers levels members = true := by
  induction members with
  | nil => simp [Redaction.fitsMembers]
  | cons member rest ih =>
      obtain ⟨⟨text, htext⟩, hrest⟩ := List.forall_mem_cons.mp htexts
      obtain ⟨name, value⟩ := member
      subst htext
      rw [Redaction.fitsMembers, Redaction.fits_string, ih hrest, Bool.or_true, Bool.and_self]

theorem obstacleUnder?_of_areTexts
    (htexts : AreTexts members)
    (levels : Nat) :
    obstacleUnder? levels members = none := by
  induction members with
  | nil => simp [obstacleUnder?]
  | cons member rest ih =>
      obtain ⟨⟨text, htext⟩, hrest⟩ := List.forall_mem_cons.mp htexts
      obtain ⟨name, value⟩ := member
      subst htext
      simp [obstacleUnder?, obstacle?, ih hrest]

/-- Redaction puts texts in the place of texts. -/
theorem areTexts_redactMembers
    (htexts : AreTexts members) :
    AreTexts (Redaction.redactMembers members) := by
  induction members with
  | nil => simp [Redaction.redactMembers, AreTexts]
  | cons member rest ih =>
      obtain ⟨⟨text, htext⟩, hrest⟩ := List.forall_mem_cons.mp htexts
      obtain ⟨name, value⟩ := member
      subst htext
      rw [Redaction.redactMembers]
      refine List.forall_mem_cons.mpr ⟨?_, ih hrest⟩
      split
      · exact ⟨_, rfl⟩
      · exact ⟨_, Redaction.redact.eq_def _⟩

end Texts

end Json

namespace Observed

theorem isTellable_of_fits
    {value : Json}
    (hfits : Redaction.fits Redaction.levelLimit value = true)
    (hredacted : (Redaction.redact value).obstacle? Json.nestingLimit = none)
    (hplain : value.obstacle? Json.nestingLimit = none) :
    IsTellable (.json value) := by
  refine ⟨fun session level => ?_, _, by rw [told, Json.told, hplain]⟩
  cases hlogging : session.logging with
  | none => simp [Session.obstacle?, hlogging]
  | some settings =>
      simp [Session.obstacle?, hlogging, LoggingSettings.obstacle?, hfits, hredacted, hplain]

theorem isTellable_null : IsTellable (.json .null) :=
  ⟨fun session level => Session.obstacle?_null session level, _, rfl⟩

theorem isTellable_text
    (text : String) :
    IsTellable (.json (.string text)) :=
  ⟨fun session level => Session.obstacle?_text session level text, _, rfl⟩

theorem isTellable_texts
    {members : Json.Members}
    (htexts : Json.AreTexts members) :
    IsTellable (.json (.object members)) := by
  refine isTellable_of_fits (Json.fitsMembers_of_areTexts htexts _) ?_
    (Json.obstacleUnder?_of_areTexts htexts _)
  rw [Redaction.redact]
  exact Json.obstacleUnder?_of_areTexts (Json.areTexts_redactMembers htexts) _

theorem isTellable_int
    {value : Int}
    (hfits : ¬Decimal.IsOverlong value) :
    IsTellable (.json (.int value)) := by
  have hplain : ∀ levels, (Json.int value).obstacle? levels = none := by
    intro levels
    simp [Json.obstacle?, Decimal.integerText?_of_not_isOverlong hfits]
  refine isTellable_of_fits (Redaction.fits_int _ _) ?_ (hplain _)
  rw [Redaction.redact.eq_def]
  exact hplain _

end Observed

namespace Poll

variable {α : Type} {last : Trial α} {description : String} {timeout start : Float}
  {attempts : Nat}

theorem Trial.refusal?_of_isTellable
    (htellable : (seenIn last.outcome).IsTellable) :
    last.refusal? timeout start = none :=
  htellable.logged _ _

/-- A trial that can tell what it has seen ends the poll by its outcome. -/
theorem Trial.comesTo_of_isTellable
    (htellable : (seenIn last.outcome).IsTellable) :
    last.comesTo description timeout start attempts =
      decided description timeout attempts last.outcome :=
  comesTo_of_told (refusal?_of_isTellable htellable) attempts

/-- A trial that can tell what it has seen is decisive for its outcome or for the time. -/
theorem Trial.isDecisive_iff_of_isTellable
    (htellable : (seenIn last.outcome).IsTellable) :
    last.IsDecisive timeout start ↔
      isTransient last.outcome = false ∨ timeout ≤ last.elapsed start := by
  simp [IsDecisive, refusal?_of_isTellable htellable]

/-- A poll that has seen what can be told, and has no time left, tells so. -/
theorem exists_timedOut_of_isTellable
    (description : String)
    (timeout : Float)
    (attempts : Nat)
    {seen : Observed}
    (htellable : seen.IsTellable) :
    ∃ message,
      decided (α := α) description timeout attempts (.ok (.pending seen)) =
        .error (.timedOut message seen attempts) := by
  obtain ⟨text, htext⟩ := htellable.told
  rw [decided, Failure.telling, htext]
  exact ⟨_, rfl⟩

end Poll
end RestartCheck
