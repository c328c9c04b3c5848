import RestartCheck.Proofs.Json.Display
import RestartCheck.Proofs.Migration.Forward

/-!
# What an answer has to say about a resource

A detection reads the entry of every requested resource.  A resource is completed when it has no
entry, and has another status when its entry requires an action by a word for that status, in
whatever case.  Two kinds of entries are read although they say nothing: one that is null counts as
missing, and a required action that is null is shown as a word for a settled resource.  Every other
entry is fatal.

**Algorithm.**  The required action is shown as a text, put in lower case and looked up among the
words.  A value that is no text is shown with a mark in front or as one of a few constants, and only
one of these is among the words.

**Results.**
* `lower_display_mem_wordsFor_iff`: which values are shown as a word for a status.
* `classify_eq_ok_iff`: which entries are read, and as what.
* `exists_ok_of_runs_classifyAll_iff`: when the resources are classified.
* `reads_entries_of_answer`: a detection reads the entries, or is fatal.
-/

namespace RestartCheck
namespace Migration

open RestartCheck.Action Trace

/-! ## Words -/

/-- The words by which an answer requires an action for a resource of the status. -/
def wordsFor : MigrationStatus → List String
  | .required => ["upgrade", "reindex"]
  | .inProgress => ["in_progress"]
  | .notRequired => ["none", "not_required"]
  | .completed => []

theorem lookup_actionStatus_iff
    {word : String} {status : MigrationStatus} :
    OrderedMap.lookup actionStatus word = some status ↔ word ∈ wordsFor status := by
  constructor
  · intro hlookup
    have hall : ∀ entry ∈ actionStatus, entry.1 ∈ wordsFor entry.2 := by
      decide
    exact hall _ (OrderedMap.mem_of_lookup_eq_some hlookup)
  · intro hmem
    have hall : ∀ status, ∀ word ∈ wordsFor status,
        OrderedMap.lookup actionStatus word = some status := by
      intro status
      cases status <;> decide
    exact hall status word hmem

/-- No word begins with a mark. -/
theorem notMem_wordsFor_of_opensWithMark
    {word : String}
    (hopens : Json.OpensWithMark word)
    (status : MigrationStatus) :
    word ∉ wordsFor status := by
  intro hmem
  have hall : ∀ status, ∀ word ∈ wordsFor status,
      word.toList.head?.any Json.isMark = false := by
    intro status
    cases status <;> decide
  obtain ⟨c, rest, hword, hmark⟩ := hopens
  have hplain := hall status word hmem
  rw [hword] at hplain
  simp [hmark] at hplain

/-- Null is the only value other than a text that is shown as a word, when put in lower case. -/
theorem lower_display_mem_wordsFor_iff
    {value : Json} {status : MigrationStatus} :
    Text.lower value.display ∈ wordsFor status ↔
      (∃ word, value = .string word ∧ Text.lower word ∈ wordsFor status)
      ∨
      (value = .null ∧ status = .notRequired) := by
  by_cases htext : ∃ text, value = .string text
  · obtain ⟨text, rfl⟩ := htext
    simp
  by_cases hnull : value = .null
  · subst hnull
    have hshown : Text.lower Json.null.display = "none" := by
      decide +kernel
    rw [hshown]
    cases status <;> simp [wordsFor]
  · -- What else is shown is no word, so that neither side holds.
    have hnoWord : Text.lower value.display ∉ wordsFor status := by
      rcases Json.display_mem_constants_or_opensWithMark hnull
        (fun text hvalue => htext ⟨text, hvalue⟩) with hconstant | hopens
      · have hall : ∀ constant ∈ Json.constants, ∀ status,
            Text.lower constant ∉ wordsFor status := by
          intro constant hmem status
          revert constant
          cases status <;> decide +kernel
        exact hall _ hconstant status
      · exact notMem_wordsFor_of_opensWithMark hopens.lower status
    constructor
    · exact fun hword => absurd hword hnoWord
    · rintro (⟨word, hvalue, _⟩ | ⟨hvalue, _⟩)
      · exact absurd ⟨word, hvalue⟩ htext
      · exact absurd hvalue hnull

/-! ## Entries -/

/-- The entry says that the resource has the status. -/
inductive Evidences : Option Json → MigrationStatus → Prop
  /-- There is no entry. -/
  | missing : Evidences none .completed
  /-- The entry requires an action by a word for the status, in whatever case. -/
  | required {members : Json.Members} {word : String} {status : MigrationStatus}
      (hword : OrderedMap.lookup members "action_required" = some (.string word))
      (hstatus : Text.lower word ∈ wordsFor status) :
      Evidences (some (.object members)) status

/-- The entry is null, or the action that it requires is, and it is read as a settled resource. -/
inductive Overlooks : Option Json → MigrationStatus → Prop
  | entry : Overlooks (some .null) .completed
  | action {members : Json.Members}
      (hnull : OrderedMap.lookup members "action_required" = some .null) :
      Overlooks (some (.object members)) .notRequired

/-- What is overlooked says nothing. -/
theorem Overlooks.not_evidences
    {entry : Option Json} {status : MigrationStatus}
    (hoverlooks : Overlooks entry status) :
    ¬Evidences entry status := by
  intro hevidences
  cases hoverlooks with
  | entry => cases hevidences
  | action hnull =>
      cases hevidences with
      | required hword _ => cases hnull.symm.trans hword

/-- The entry is read as the status. -/
def Reads
    (entry : Option Json)
    (status : MigrationStatus) : Prop :=
  Evidences entry status ∨ Overlooks entry status

theorem classify_object_eq_ok_iff
    {ref : ResourceRef} {members : Json.Members} {status : MigrationStatus} :
    classify ref (some (.object members)) = .ok status ↔
      ∃ action,
        OrderedMap.lookup members "action_required" = some action ∧
        Text.lower action.display ∈ wordsFor status := by
  simp only [classify]
  cases OrderedMap.lookup members "action_required" with
  | none => simp
  | some action =>
      simp only [Option.some.injEq, exists_eq_left', ← lookup_actionStatus_iff]
      cases OrderedMap.lookup actionStatus (Text.lower action.display) with
      | none => simp
      | some known => simp

/-- Which entries are read, and as what. -/
theorem classify_eq_ok_iff
    {ref : ResourceRef} {entry : Option Json} {status : MigrationStatus} :
    classify ref entry = .ok status ↔ Reads entry status := by
  constructor
  · intro hclass
    cases entry with
    | none =>
        cases hclass
        exact Or.inl .missing
    | some value =>
        cases value with
        | null =>
            cases hclass
            exact Or.inr .entry
        | object members =>
            obtain ⟨action, haction, hshown⟩ := classify_object_eq_ok_iff.mp hclass
            rcases lower_display_mem_wordsFor_iff.mp hshown with
              ⟨word, rfl, hstatus⟩ | ⟨rfl, rfl⟩
            · exact Or.inl (.required haction hstatus)
            · exact Or.inr (.action haction)
        | _ => cases hclass
  · rintro (hevidence | hnull)
    · cases hevidence with
      | missing => rfl
      | required hword hstatus =>
          exact classify_object_eq_ok_iff.mpr
            ⟨_, hword, lower_display_mem_wordsFor_iff.mpr (Or.inl ⟨_, rfl, hstatus⟩)⟩
    · cases hnull with
      | entry => rfl
      | action hnull =>
          exact classify_object_eq_ok_iff.mpr
            ⟨_, hnull, lower_display_mem_wordsFor_iff.mpr (Or.inr ⟨rfl, rfl⟩)⟩

/-- An entry is read as one status only. -/
theorem Reads.eq
    {entry : Option Json} {status other : MigrationStatus}
    (hreads : Reads entry status)
    (hother : Reads entry other) :
    status = other := by
  have hclass : classify default entry = .ok status := classify_eq_ok_iff.mpr hreads
  rw [classify_eq_ok_iff.mpr hother] at hclass
  cases hclass
  rfl

/-! ## The resources of a detection -/

section Detection

variable {path : String} {refs : List ResourceRef} {reported : Json.Members}
  {done : OrderedMap ResourceRef MigrationStatus} {before after : Session}
  {events : List Event} {result : Except Failure (OrderedMap ResourceRef MigrationStatus)}

/-- The entry of the resource is read as a status that is not behind the one remembered. -/
def IsReadable
    (reported : Json.Members)
    (session : Session)
    (ref : ResourceRef) : Prop :=
  ∃ status,
    Reads (OrderedMap.lookup reported ref.name) status ∧
    ∀ previous, ¬IsBehind session ref previous status

/-- Without a memory a resource is readable when its entry is. -/
theorem isReadable_fresh_iff
    {ref : ResourceRef} :
    IsReadable reported {} ref ↔ ∃ status, Reads (OrderedMap.lookup reported ref.name) status := by
  have hfresh : ∀ previous status, ¬IsBehind {} ref previous status := by
    rintro previous status ⟨hlookup, _⟩
    cases hlookup
  simp only [IsReadable, hfresh, not_false_eq_true, implies_true, and_true]

/-- Remembering what the entry of one resource is read as makes no other unreadable. -/
theorem isReadable_remember_iff
    {ref other : ResourceRef} {status : MigrationStatus}
    (hreads : Reads (OrderedMap.lookup reported ref.name) status)
    (hahead : ∀ previous, ¬IsBehind before ref previous status) :
    IsReadable reported (remember before ref status) other ↔ IsReadable reported before other := by
  by_cases hsame : other = ref
  · subst hsame
    have hagain : ∀ previous, ¬IsBehind (remember before other status) other previous status := by
      rintro previous ⟨hlookup, hrank⟩
      rw [remember, OrderedMap.lookup_put_self] at hlookup
      cases hlookup
      exact absurd hrank (Nat.lt_irrefl _)
    exact ⟨fun _ => ⟨status, hreads, hahead⟩, fun _ => ⟨status, hreads, hagain⟩⟩
  · simp only [IsReadable, IsBehind, remember, OrderedMap.lookup_put_of_ne _ _ hsame]

/-- A resource that ends a classification is not readable. -/
theorem not_isReadable_of_fails
    {ref : ResourceRef} {failure : Failure}
    (hfails : FailsWith reported before ref failure) :
    ¬IsReadable reported before ref := by
  rintro ⟨status, hreads, hahead⟩
  have hclass : classify ref _ = .ok status := classify_eq_ok_iff.mpr hreads
  rcases hfails with herror | ⟨known, previous, hknown, hbehind, _⟩
  · cases herror.symm.trans hclass
  · cases hknown.symm.trans hclass
    exact hahead previous hbehind

/-- The resources are classified when every one of them is readable, and otherwise not. -/
theorem exists_ok_of_runs_classifyAll_iff
    (hrun : (classifyAll reported done refs).Runs before events result after) :
    (∃ found, result = .ok found) ↔ ∀ ref ∈ refs, IsReadable reported before ref := by
  induction refs generalizing done before with
  | nil =>
      obtain ⟨_, hresult, _⟩ := runs_pure_iff.mp hrun
      simp [hresult]
  | cons ref rest ih =>
      rw [List.forall_mem_cons]
      rcases runs_classifyAll_cons_iff.mp hrun with
        ⟨failure, hfails, _, hresult, _⟩ | ⟨status, hclass, hahead, hrest⟩
      · simp [hresult, not_isReadable_of_fails hfails]
      · have hreads := classify_eq_ok_iff.mp hclass
        simp only [ih hrest, isReadable_remember_iff hreads hahead]
        exact ⟨fun hothers => ⟨⟨status, hreads, hahead⟩, hothers⟩, And.right⟩

/-- Every resource has the status that its own entry is read as. -/
theorem reads_of_runs_classifyAll
    {found : OrderedMap ResourceRef MigrationStatus}
    (hrun : (classifyAll reported done refs).Runs before events (.ok found) after) :
    ∀ ref ∈ refs, ∃ status,
      OrderedMap.lookup found ref = some status ∧
      Reads (OrderedMap.lookup reported ref.name) status := by
  intro ref hmem
  obtain ⟨status, hclass, hfound⟩ := lookup_of_runs_classifyAll hrun (Or.inl hmem)
  exact ⟨status, hfound, classify_eq_ok_iff.mp hclass⟩

theorem exists_runs_classifyAll
    (reported : Json.Members)
    (done : OrderedMap ResourceRef MigrationStatus)
    (refs : List ResourceRef)
    (before : Session) :
    ∃ result after, (classifyAll reported done refs).Runs before [] result after := by
  induction refs generalizing done before with
  | nil => exact ⟨_, _, runs_pure_iff.mpr ⟨rfl, rfl, rfl⟩⟩
  | cons ref rest ih =>
      cases hclass : classify ref (OrderedMap.lookup reported ref.name) with
      | error failure =>
          exact ⟨_, _, runs_classifyAll_cons_iff.mpr
            (Or.inl ⟨failure, Or.inl hclass, rfl, rfl, rfl⟩)⟩
      | ok status =>
          by_cases hbehind : ∃ previous, IsBehind before ref previous status
          · obtain ⟨previous, hprevious⟩ := hbehind
            exact ⟨_, _, runs_classifyAll_cons_iff.mpr
              (Or.inl ⟨_, Or.inr ⟨status, previous, hclass, hprevious, rfl⟩, rfl, rfl, rfl⟩)⟩
          · obtain ⟨result, after, hrest⟩ :=
              ih (OrderedMap.put done ref status) (remember before ref status)
            exact ⟨result, after, runs_classifyAll_cons_iff.mpr
              (Or.inr ⟨status, hclass, fun previous h => hbehind ⟨previous, h⟩, hrest⟩)⟩

/-- The runs of a detection that is answered by a description of resources. -/
theorem runs_detect_of_reported_iff
    {response : Response} {body : Json.Members}
    (hok : response.ok = true)
    (hbody : response.object = .ok body)
    (hindices : OrderedMap.lookup body "indices" = some (.object reported)) :
    ((detect path refs).Runs before events result after ∧
        exchanges events = [⟨assistanceRequest path, .ok response⟩]) ↔
      events = [⟨.call (assistanceRequest path), .ok response⟩, assistanceNote before reported] ∧
      (classifyAll reported [] refs).Runs before [] result after := by
  have hreported : (Except.ok response : Except Failure Response).bind reportedIn = .ok reported :=
    reportedIn_eq_ok_iff.mpr ⟨hok, body, hbody, hindices⟩
  constructor
  · rintro ⟨hrun, hexchanges⟩
    obtain ⟨known, ⟨_, hknown, rfl, _⟩ | ⟨described, hdescribed, rfl, hclassified⟩⟩ :=
      runs_detect_iff.mp hrun
    · cases hexchanges
      cases hreported.symm.trans hknown
    · cases hexchanges
      cases hreported.symm.trans hdescribed
      exact ⟨rfl, hclassified⟩
  · rintro ⟨rfl, hclassified⟩
    exact ⟨runs_detect_iff.mpr ⟨_, Or.inr ⟨reported, hreported, rfl, hclassified⟩⟩, rfl⟩

end Detection

/-! ## Answers -/

/-- The body describes resources that pass the test. -/
def describesResources
    (test : Json.Members → Bool)
    (body : Json.Members) : Bool :=
  match OrderedMap.lookup body "indices" with
  | some (.object reported) => test reported
  | _ => false

theorem exists_reported_of_chars
    (text : List Char)
    (test : Json.Members → Bool)
    (hnonempty : text ≠ [])
    (hdescribes : holdsObject (describesResources test) text = true) :
    ∃ body reported,
      (⟨200, String.ofList text⟩ : Response).object = .ok body ∧
      OrderedMap.lookup body "indices" = some (.object reported) ∧
      test reported = true := by
  obtain ⟨body, hbody, htest⟩ := exists_object_of_chars 200 _ hnonempty hdescribes
  unfold describesResources at htest
  split at htest
  · next reported hindices => exact ⟨body, reported, hbody, hindices, htest⟩
  · cases htest

/-- **A detection reads the entries of the answer, or is fatal.**  An answer that describes
resources always leads to a result.  When the entry of every requested resource is read as a status
that is not behind the one remembered, the detection returns these statuses; otherwise it is
fatal. -/
theorem reads_entries_of_answer
    (path : String)
    (refs : List ResourceRef)
    (before : Session)
    (response : Response)
    (body reported : Json.Members)
    (hok : response.ok = true)
    (hbody : response.object = .ok body)
    (hindices : OrderedMap.lookup body "indices" = some (.object reported)) :
    (∃ events result after,
      (detect path refs).Runs before events result after ∧
      exchanges events = [⟨assistanceRequest path, .ok response⟩]) ∧
    ∀ events result after,
      (detect path refs).Runs before events result after →
      exchanges events = [⟨assistanceRequest path, .ok response⟩] →
      ((∀ ref ∈ refs, IsReadable reported before ref) →
        ∃ found,
          result = .ok found ∧
          ∀ ref ∈ refs, ∃ status,
            OrderedMap.lookup found ref = some status ∧
            Reads (OrderedMap.lookup reported ref.name) status) ∧
      ((∃ ref ∈ refs, ¬IsReadable reported before ref) →
        ∃ failure, result = .error failure ∧ IsFatal failure) := by
  constructor
  · obtain ⟨result, after, hclassified⟩ := exists_runs_classifyAll reported [] refs before
    exact ⟨_, result, after,
      (runs_detect_of_reported_iff hok hbody hindices).mpr ⟨rfl, hclassified⟩⟩
  · intro events result after hrun hexchanges
    have hclassified :=
      ((runs_detect_of_reported_iff hok hbody hindices).mp ⟨hrun, hexchanges⟩).2
    have hsucceeds := exists_ok_of_runs_classifyAll_iff hclassified
    constructor
    · intro hreadable
      obtain ⟨found, rfl⟩ := hsucceeds.mpr hreadable
      exact ⟨found, rfl, reads_of_runs_classifyAll hclassified⟩
    · rintro ⟨ref, hmem, hunreadable⟩
      cases result with
      | ok found => exact absurd (hsucceeds.mp ⟨found, rfl⟩ ref hmem) hunreadable
      | error failure => exact ⟨failure, rfl, isFatal_of_runs_classifyAll hclassified⟩

/-- An answer in which one resource has to be upgraded, and the action required for the other is a
flag. -/
def mixedText : List Char :=
  objectText [("indices", objectText
    [(".security-6", objectText [("action_required", "\"UPGRADE\"".toList)]),
     (".watches", objectText [("action_required", "true".toList)])])]

/-- The one resource has to be upgraded, and the other is not read. -/
def isMixed
    (reported : Json.Members) : Bool :=
  match classify ⟨".security-6", "index"⟩ (OrderedMap.lookup reported ".security-6"),
    classify ⟨".watches", "index"⟩ (OrderedMap.lookup reported ".watches") with
  | .ok .required, .error _ => true
  | _, _ => false

/-- The detection of the one resource succeeds, and that of the other is fatal. -/
theorem reads_entries_in_mixed :
    (∃ events found after,
      (detect Harness.standardAssistancePath [⟨".security-6", "index"⟩]).Runs {} events (.ok found)
        after ∧
      OrderedMap.lookup found ⟨".security-6", "index"⟩ = some .required) ∧
    ∃ events failure after,
      (detect Harness.standardAssistancePath [⟨".watches", "index"⟩]).Runs {} events
        (.error failure) after ∧
      IsFatal failure := by
  have hmixed : holdsObject (describesResources isMixed) mixedText = true := by
    decide +kernel
  obtain ⟨body, reported, hbody, hindices, htest⟩ :=
    exists_reported_of_chars mixedText _ (List.cons_ne_nil _ _) hmixed
  unfold isMixed at htest
  split at htest
  · next hsecurity hwatches =>
      have hrequired := classify_eq_ok_iff.mp hsecurity
      constructor
      · obtain ⟨⟨events, result, after, hrun, hexchanges⟩, hreads⟩ :=
          reads_entries_of_answer Harness.standardAssistancePath [⟨".security-6", "index"⟩] {}
            _ body reported rfl hbody hindices
        obtain ⟨found, rfl, hfound⟩ := (hreads events result after hrun hexchanges).1
          (List.forall_mem_singleton.mpr (isReadable_fresh_iff.mpr ⟨_, hrequired⟩))
        obtain ⟨status, hstatus, hread⟩ := hfound _ (List.mem_singleton_self _)
        exact ⟨events, found, after, hrun, hread.eq hrequired ▸ hstatus⟩
      · obtain ⟨⟨events, result, after, hrun, hexchanges⟩, hreads⟩ :=
          reads_entries_of_answer Harness.standardAssistancePath [⟨".watches", "index"⟩] {}
            _ body reported rfl hbody hindices
        have hunreadable : ¬IsReadable reported {} ⟨".watches", "index"⟩ := by
          intro hreadable
          obtain ⟨status, hread⟩ := isReadable_fresh_iff.mp hreadable
          cases (classify_eq_ok_iff.mpr hread).symm.trans hwatches
        obtain ⟨failure, rfl, hfatal⟩ := (hreads events result after hrun hexchanges).2
          ⟨_, List.mem_singleton_self _, hunreadable⟩
        exact ⟨events, failure, after, hrun, hfatal⟩
  · cases htest

/-- An answer in which one resource is null, and the action required for the other is. -/
def nullText : List Char :=
  objectText [("indices", objectText
    [(".security-6", "null".toList),
     (".watches", objectText [("action_required", "null".toList)])])]

/-- The one resource is null, and the action required for the other is. -/
def leavesNull
    (reported : Json.Members) : Bool :=
  match OrderedMap.lookup reported ".security-6", OrderedMap.lookup reported ".watches" with
  | some .null, some (.object members) =>
      match OrderedMap.lookup members "action_required" with
      | some .null => true
      | _ => false
  | _, _ => false

theorem overlooks_of_leavesNull
    {reported : Json.Members}
    (hnull : leavesNull reported = true) :
    Overlooks (OrderedMap.lookup reported ".security-6") .completed ∧
    Overlooks (OrderedMap.lookup reported ".watches") .notRequired := by
  unfold leavesNull at hnull
  split at hnull
  · next members hentry hobject =>
      split at hnull
      · next haction => exact ⟨hentry ▸ .entry, hobject ▸ .action haction⟩
      · cases hnull
  · cases hnull

/-- Both resources are settled, although nothing says so of either. -/
theorem settles_on_null :
    ∃ body reported,
      (⟨200, String.ofList nullText⟩ : Response).object = .ok body ∧
      OrderedMap.lookup body "indices" = some (.object reported) ∧
      ∃ events found after,
        (detect Harness.standardAssistancePath
          [⟨".security-6", "index"⟩, ⟨".watches", "index"⟩]).Runs {} events (.ok found) after ∧
        exchanges events =
          [⟨assistanceRequest Harness.standardAssistancePath,
            .ok ⟨200, String.ofList nullText⟩⟩] ∧
        (OrderedMap.lookup found ⟨".security-6", "index"⟩ = some .completed ∧
          ¬Evidences (OrderedMap.lookup reported ".security-6") .completed) ∧
        OrderedMap.lookup found ⟨".watches", "index"⟩ = some .notRequired ∧
          ¬Evidences (OrderedMap.lookup reported ".watches") .notRequired := by
  have hnull : holdsObject (describesResources leavesNull) nullText = true := by
    decide +kernel
  obtain ⟨body, reported, hbody, hindices, htest⟩ :=
    exists_reported_of_chars nullText _ (List.cons_ne_nil _ _) hnull
  obtain ⟨hsecurity, hwatches⟩ := overlooks_of_leavesNull htest
  have hreadable : ∀ ref ∈ ([⟨".security-6", "index"⟩, ⟨".watches", "index"⟩] :
      List ResourceRef), IsReadable reported {} ref := by
    simp only [List.forall_mem_cons, isReadable_fresh_iff]
    exact ⟨⟨_, Or.inr hsecurity⟩, ⟨_, Or.inr hwatches⟩, List.forall_mem_nil _⟩
  obtain ⟨result, after, hclassified⟩ := exists_runs_classifyAll reported [] _ {}
  obtain ⟨found, rfl⟩ := (exists_ok_of_runs_classifyAll_iff hclassified).mpr hreadable
  have hok : (⟨200, String.ofList nullText⟩ : Response).ok = true :=
    rfl
  obtain ⟨hrun, hexchanges⟩ :=
    (runs_detect_of_reported_iff hok hbody hindices).mpr ⟨rfl, hclassified⟩
  have hfound := reads_of_runs_classifyAll hclassified
  obtain ⟨_, hcompleted, hfirst⟩ := hfound ⟨".security-6", "index"⟩ (by simp)
  obtain ⟨_, hsettled, hsecond⟩ := hfound ⟨".watches", "index"⟩ (by simp)
  cases hfirst.eq (Or.inr hsecurity)
  cases hsecond.eq (Or.inr hwatches)
  exact ⟨body, reported, hbody, hindices, _, found, after, hrun, hexchanges,
    ⟨hcompleted, hsecurity.not_evidences⟩, hsettled, hwatches.not_evidences⟩

end Migration
end RestartCheck
