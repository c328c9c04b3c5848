import RestartCheck.Proofs.Migration.Classification

/-!
# What a failed detection leaves behind

A detection accepts one resource after the other, and remembers each as soon as it is accepted.
When a later resource turns out to be unreadable or behind, the detection fails and returns nothing,
but what it has accepted up to there stays remembered.  So the memory can hold a status that was
never returned to anyone.

**Algorithm.**  A detection changes the memory by writing what it accepts, in order.  A detection
that succeeds returns all that it has written.  One that fails has written the resources in front of
the one it failed on, and leaves the memory as it was when these were remembered like that already.

**Results.**
* `exists_accepted_of_runs_classifyAll`: what is written, be the detection successful or not.
* `exists_accepted_of_failed`: when a failed detection leaves the memory as it was.
* `holds_last_returned_iff_of_successive`: when the memory holds what was returned last.
* `refuses_status_never_returned`: a memory that holds what was never returned.
-/

namespace RestartCheck

/-! ## Writing several keys -/

namespace OrderedMap

variable {κ ν : Type} [DecidableEq κ] {map more : OrderedMap κ ν} {key : κ} {value : ν}

theorem put_eq_self
    (hlookup : lookup map key = some value) :
    put map key value = map := by
  induction map with
  | nil => cases hlookup
  | cons entry rest ih =>
      obtain ⟨known, old⟩ := entry
      rw [lookup_cons] at hlookup
      rw [put_cons]
      split
      · next hsame =>
          rw [if_pos hsame, Option.some.injEq] at hlookup
          rw [hlookup]
      · next hother =>
          rw [if_neg hother] at hlookup
          rw [ih hlookup]

/-- What is written comes first, and what was there before shows where nothing is written. -/
theorem lookup_update
    (map more : OrderedMap κ ν)
    (key : κ) :
    lookup (update map more) key = (lookup (update [] more) key).or (lookup map key) := by
  induction more generalizing map with
  | nil => rfl
  | cons entry rest ih =>
      change lookup (update (put map entry.1 entry.2) rest) key =
        (lookup (update (put [] entry.1 entry.2) rest) key).or (lookup map key)
      rw [ih (put map entry.1 entry.2), ih (put [] entry.1 entry.2), Option.or_assoc]
      by_cases hsame : key = entry.1
      · subst hsame
        simp
      · simp [lookup_put_of_ne _ _ hsame]

theorem mem_of_lookup_update
    (hlookup : lookup (update [] more) key = some value) :
    (key, value) ∈ more := by
  induction more with
  | nil => cases hlookup
  | cons entry rest ih =>
      change lookup (update (put [] entry.1 entry.2) rest) key = some value at hlookup
      rw [lookup_update] at hlookup
      cases hlater : lookup (update [] rest) key with
      | some known =>
          rw [hlater] at hlookup
          cases hlookup
          exact List.mem_cons_of_mem _ (ih hlater)
      | none =>
          rw [hlater] at hlookup
          rw [List.mem_singleton.mp (mem_of_lookup_eq_some hlookup)]
          exact List.mem_cons_self

/-- An entry is found again when all that is written for its key agrees with it. -/
theorem lookup_update_of_mem
    {entry : κ × ν}
    (map : OrderedMap κ ν)
    (hmem : entry ∈ more)
    (hagree : ∀ other ∈ more, other.1 = entry.1 → other.2 = entry.2) :
    lookup (update map more) entry.1 = some entry.2 := by
  induction more generalizing map with
  | nil => cases hmem
  | cons first rest ih =>
      rw [List.forall_mem_cons] at hagree
      change lookup (update (put map first.1 first.2) rest) entry.1 = some entry.2
      by_cases hlater : entry ∈ rest
      · exact ih _ hlater hagree.2
      · obtain rfl := (List.mem_cons.mp hmem).resolve_right hlater
        rw [lookup_update]
        cases hwritten : lookup (update [] rest) entry.1 with
        | some value =>
            rw [← hagree.2 _ (mem_of_lookup_update hwritten) rfl]
            rfl
        | none => simp

/-- Writing leaves a map as it is when nothing new is written. -/
theorem update_eq_self_iff
    (hagree : ∀ entry ∈ more, ∀ other ∈ more, other.1 = entry.1 → other.2 = entry.2) :
    update map more = map ↔ ∀ entry ∈ more, lookup map entry.1 = some entry.2 := by
  constructor
  · intro hsame entry hmem
    rw [← hsame]
    exact lookup_update_of_mem map hmem (hagree entry hmem)
  · intro hknown
    clear hagree
    induction more with
    | nil => rfl
    | cons first rest ih =>
        rw [List.forall_mem_cons] at hknown
        change update (put map first.1 first.2) rest = map
        rw [put_eq_self hknown.1]
        exact ih hknown.2

end OrderedMap

namespace Migration

open RestartCheck.Action Trace

section Accepting

variable {path : String} {refs : List ResourceRef} {reported : Json.Members}
  {done found : OrderedMap ResourceRef MigrationStatus} {before after : Session}
  {events : List Event} {result : Except Failure (OrderedMap ResourceRef MigrationStatus)}
  {ref : ResourceRef} {status : MigrationStatus}
  {accepted : List (ResourceRef × MigrationStatus)}

/-! ## What a detection accepts -/

/-- The entry of the resource is read as the status, which is not behind the one remembered. -/
def Accepts
    (reported : Json.Members)
    (session : Session)
    (entry : ResourceRef × MigrationStatus) : Prop :=
  Reads (OrderedMap.lookup reported entry.1.name) entry.2 ∧
  ∀ previous, ¬IsBehind session entry.1 previous entry.2

/-- What is accepted of one resource decides nothing about the others. -/
theorem accepts_remember_iff
    {entry : ResourceRef × MigrationStatus}
    (haccepts : Accepts reported before (ref, status)) :
    Accepts reported (remember before ref status) entry ↔ Accepts reported before entry := by
  refine and_congr_right fun hreads => ?_
  by_cases hsame : entry.1 = ref
  · obtain rfl : entry.2 = status := by
      rw [hsame] at hreads
      exact hreads.eq haccepts.1
    subst hsame
    refine iff_of_true ?_ haccepts.2
    rintro previous ⟨hlookup, hrank⟩
    rw [remember, OrderedMap.lookup_put_self] at hlookup
    cases hlookup
    exact absurd hrank (Nat.lt_irrefl _)
  · simp only [IsBehind, remember, OrderedMap.lookup_put_of_ne _ _ hsame]

/-- One answer has one status for each resource. -/
theorem agree_of_accepts
    (haccepted : ∀ entry ∈ accepted, Accepts reported before entry) :
    ∀ entry ∈ accepted, ∀ other ∈ accepted, other.1 = entry.1 → other.2 = entry.2 := by
  intro entry hentry other hother hsame
  have hreads := (haccepted other hother).1
  rw [hsame] at hreads
  exact hreads.eq (haccepted entry hentry).1

/-- What a classification writes into the memory: the status of every resource, or of those in front
of the one that it fails on. -/
theorem exists_accepted_of_runs_classifyAll
    (hrun : (classifyAll reported done refs).Runs before events result after) :
    ∃ accepted,
      (∀ entry ∈ accepted, Accepts reported before entry) ∧
      after.statuses = OrderedMap.update before.statuses accepted ∧
      ((refs = OrderedMap.keys accepted ∧ result = .ok (OrderedMap.update done accepted))
        ∨
        ∃ ref rest failure,
          refs = OrderedMap.keys accepted ++ ref :: rest ∧
          ¬IsReadable reported before ref ∧
          result = .error failure) := by
  induction refs generalizing done before with
  | nil =>
      obtain ⟨_, rfl, rfl⟩ := runs_pure_iff.mp hrun
      exact ⟨[], by simp, rfl, Or.inl ⟨rfl, rfl⟩⟩
  | cons ref rest ih =>
      rcases runs_classifyAll_cons_iff.mp hrun with
        ⟨failure, hfails, _, rfl, rfl⟩ | ⟨status, hclass, hahead, hrest⟩
      · refine ⟨[], by simp, rfl, Or.inr ⟨ref, rest, failure, rfl, ?_, rfl⟩⟩
        exact not_isReadable_of_fails hfails
      · have haccepts : Accepts reported before (ref, status) :=
          ⟨classify_eq_ok_iff.mp hclass, hahead⟩
        obtain ⟨accepted, haccepted, hafter, hend⟩ := ih hrest
        refine ⟨(ref, status) :: accepted, ?_, hafter, ?_⟩
        · rw [List.forall_mem_cons]
          refine ⟨haccepts, fun entry hmem => ?_⟩
          exact (accepts_remember_iff haccepts).mp (haccepted entry hmem)
        · rcases hend with ⟨rfl, rfl⟩ | ⟨other, left, failure, rfl, hunreadable, rfl⟩
          · exact Or.inl ⟨rfl, rfl⟩
          · refine Or.inr ⟨other, left, failure, rfl, ?_, rfl⟩
            rwa [isReadable_remember_iff haccepts.1 haccepts.2] at hunreadable

end Accepting

/-! ## One detection -/

namespace Inquiry

/-- The detection has failed and had accepted the entries before.  There are none when the answer
describes no resources; otherwise they stand in front of the first resource that is not readable. -/
def FailsAfter
    (path : String)
    (inquiry : Inquiry)
    (accepted : List (ResourceRef × MigrationStatus)) : Prop :=
  ∃ answer failure,
    exchanges inquiry.events = [⟨assistanceRequest path, answer⟩] ∧
    inquiry.result = .error failure ∧
    ((answer.bind reportedIn = .error failure ∧ accepted = [])
      ∨
      ∃ reported ref rest,
        answer.bind reportedIn = .ok reported ∧
        inquiry.refs = OrderedMap.keys accepted ++ ref :: rest ∧
        (∀ entry ∈ accepted, Accepts reported inquiry.before entry) ∧
        ¬IsReadable reported inquiry.before ref)

/-- The status that the detection returns for the resource, if it returns one. -/
def returned?
    (inquiry : Inquiry)
    (ref : ResourceRef) : Option MigrationStatus :=
  match inquiry.result with
  | .ok found => OrderedMap.lookup found ref
  | .error _ => none

/-- The detection has failed. -/
def Failed (inquiry : Inquiry) : Prop :=
  ∃ failure, inquiry.result = .error failure

/-- The detection leaves the memory as it was. -/
def Keeps (inquiry : Inquiry) : Prop :=
  inquiry.after.statuses = inquiry.before.statuses

end Inquiry

section OneDetection

variable {path : String} {inquiry : Inquiry}
  {accepted : List (ResourceRef × MigrationStatus)}

/-- What a detection writes: what it returns, or what it has accepted before it failed. -/
theorem exists_accepted_of_isSound
    (hsound : inquiry.IsSound path) :
    ∃ accepted,
      inquiry.after.statuses = OrderedMap.update inquiry.before.statuses accepted ∧
      (inquiry.result = .ok (OrderedMap.update [] accepted)
        ∨
        inquiry.FailsAfter path accepted) := by
  obtain ⟨answer, ⟨failure, hreported, hevents, hresult, hafter⟩ |
    ⟨reported, hreported, hevents, hclassified⟩⟩ := runs_detect_iff.mp hsound
  · refine ⟨[], congrArg Session.statuses hafter, Or.inr ⟨answer, failure, ?_, hresult, ?_⟩⟩
    · rw [hevents]
      rfl
    · exact Or.inl ⟨hreported, rfl⟩
  · obtain ⟨accepted, haccepted, hafter, ⟨_, hresult⟩ |
      ⟨ref, rest, failure, hrefs, hunreadable, hresult⟩⟩ :=
        exists_accepted_of_runs_classifyAll hclassified
    · exact ⟨accepted, hafter, Or.inl hresult⟩
    · refine ⟨accepted, hafter, Or.inr ⟨answer, failure, ?_, hresult, ?_⟩⟩
      · rw [hevents]
        rfl
      · exact Or.inr ⟨reported, ref, rest, hreported, hrefs, haccepted, hunreadable⟩

/-- What a failed detection has accepted has one status for each resource. -/
theorem Inquiry.FailsAfter.agree
    (hfails : inquiry.FailsAfter path accepted) :
    ∀ entry ∈ accepted, ∀ other ∈ accepted, other.1 = entry.1 → other.2 = entry.2 := by
  obtain ⟨_, _, _, _, ⟨_, rfl⟩ | ⟨_, _, _, _, _, haccepted, _⟩⟩ := hfails
  · simp
  · exact agree_of_accepts haccepted

/-- A failed detection leaves the memory as it was exactly when all that it had accepted was
remembered like that already. -/
theorem exists_accepted_of_failed
    (hsound : inquiry.IsSound path)
    (hfailed : inquiry.Failed) :
    ∃ accepted,
      inquiry.FailsAfter path accepted ∧
      inquiry.after.statuses = OrderedMap.update inquiry.before.statuses accepted ∧
      (inquiry.Keeps ↔
        ∀ entry ∈ accepted, OrderedMap.lookup inquiry.before.statuses entry.1 = some entry.2) := by
  obtain ⟨failure, hresult⟩ := hfailed
  obtain ⟨accepted, hafter, hok | hfails⟩ := exists_accepted_of_isSound hsound
  · cases hresult.symm.trans hok
  · refine ⟨accepted, hfails, hafter, ?_⟩
    rw [Inquiry.Keeps, hafter]
    exact OrderedMap.update_eq_self_iff hfails.agree

/-- A detection that succeeds, or keeps the memory, changes the memory by what it returns. -/
theorem lookup_after_of_keeps
    (hsound : inquiry.IsSound path)
    (hkeeps : inquiry.Failed → inquiry.Keeps)
    (ref : ResourceRef) :
    OrderedMap.lookup inquiry.after.statuses ref =
      (inquiry.returned? ref).or (OrderedMap.lookup inquiry.before.statuses ref) := by
  unfold Inquiry.returned?
  cases hresult : inquiry.result with
  | ok found =>
      obtain ⟨accepted, hafter, hok | ⟨_, _, _, herror, _⟩⟩ := exists_accepted_of_isSound hsound
      · cases hresult.symm.trans hok
        rw [hafter, OrderedMap.lookup_update]
      · cases hresult.symm.trans herror
  | error failure =>
      rw [hkeeps ⟨failure, hresult⟩]
      rfl

/-- A detection that changes the memory only by what it returns keeps it when it fails. -/
theorem keeps_of_lookup_after
    (hsound : inquiry.IsSound path)
    (hlookup : ∀ ref,
      OrderedMap.lookup inquiry.after.statuses ref =
        (inquiry.returned? ref).or (OrderedMap.lookup inquiry.before.statuses ref))
    (hfailed : inquiry.Failed) :
    inquiry.Keeps := by
  obtain ⟨accepted, hfails, hafter, hkeeps⟩ := exists_accepted_of_failed hsound hfailed
  obtain ⟨failure, hresult⟩ := hfailed
  refine hkeeps.mpr fun entry hmem => ?_
  have hwritten : OrderedMap.lookup inquiry.after.statuses entry.1 = some entry.2 := by
    rw [hafter]
    exact OrderedMap.lookup_update_of_mem _ hmem (hfails.agree entry hmem)
  rw [hlookup entry.1, Inquiry.returned?, hresult] at hwritten
  exact hwritten

end OneDetection

/-! ## Any number of detections -/

/-- The memory after the detections. -/
def memoryAfter
    (statuses : OrderedMap ResourceRef MigrationStatus)
    (inquiries : List Inquiry) : OrderedMap ResourceRef MigrationStatus :=
  inquiries.foldl (fun _ inquiry => inquiry.after.statuses) statuses

/-- The status that the detections have returned last for the resource.  When none has returned one
it is the status known before them. -/
def lastReturned
    (known : Option MigrationStatus)
    (inquiries : List Inquiry)
    (ref : ResourceRef) : Option MigrationStatus :=
  inquiries.foldl (fun last inquiry => (inquiry.returned? ref).or last) known

section Run

variable {path : String} {statuses : OrderedMap ResourceRef MigrationStatus}
  {inquiries : List Inquiry}

/-- At every moment of a run the memory holds what was returned last, exactly when no failed
detection has changed it. -/
theorem lookup_memoryAfter_iff
    (hsuccessive : Successive path statuses inquiries) :
    (∀ inquiry ∈ inquiries, inquiry.Failed → inquiry.Keeps) ↔
      ∀ earlier, earlier <+: inquiries → ∀ ref,
        OrderedMap.lookup (memoryAfter statuses earlier) ref =
          lastReturned (OrderedMap.lookup statuses ref) earlier ref := by
  induction inquiries generalizing statuses with
  | nil =>
      refine iff_of_true (by simp) fun earlier hprefix ref => ?_
      rw [List.prefix_nil.mp hprefix]
      rfl
  | cons first rest ih =>
      obtain ⟨rfl, hfirst, hrest⟩ := hsuccessive
      rw [List.forall_mem_cons, ih hrest]
      constructor
      · rintro ⟨hkeeps, hlater⟩ earlier hprefix ref
        rcases List.prefix_cons_iff.mp hprefix with rfl | ⟨others, rfl, hothers⟩
        · rfl
        · change OrderedMap.lookup (memoryAfter first.after.statuses others) ref =
            lastReturned ((first.returned? ref).or _) others ref
          rw [← lookup_after_of_keeps hfirst hkeeps ref]
          exact hlater others hothers ref
      · intro hall
        have hstep : ∀ ref,
            OrderedMap.lookup first.after.statuses ref =
              (first.returned? ref).or (OrderedMap.lookup first.before.statuses ref) :=
          fun ref => hall [first] (List.prefix_append [first] rest) ref
        refine ⟨keeps_of_lookup_after hfirst hstep, fun others hothers ref => ?_⟩
        rw [hstep ref]
        exact hall (first :: others) (List.cons_prefix_cons.mpr ⟨rfl, hothers⟩) ref

end Run

/-- **When the memory holds what was returned last.**  A failed detection leaves the memory as it
was exactly when the resources in front of the one it failed on were remembered already with the
statuses that it has accepted for them; otherwise it has written these statuses, which nobody was
told.  Over any number of detections the memory holds at every moment, for each resource, the status
returned last, exactly when every failed detection has left the memory as it was. -/
theorem holds_last_returned_iff_of_successive
    (path : String)
    (statuses : OrderedMap ResourceRef MigrationStatus)
    (inquiries : List Inquiry)
    (hsuccessive : Successive path statuses inquiries) :
    (∀ inquiry ∈ inquiries, inquiry.Failed →
      ∃ accepted,
        inquiry.FailsAfter path accepted ∧
        inquiry.after.statuses = OrderedMap.update inquiry.before.statuses accepted ∧
        (inquiry.Keeps ↔
          ∀ entry ∈ accepted,
            OrderedMap.lookup inquiry.before.statuses entry.1 = some entry.2)) ∧
    ((∀ inquiry ∈ inquiries, inquiry.Failed → inquiry.Keeps) ↔
      ∀ earlier, earlier <+: inquiries → ∀ ref,
        OrderedMap.lookup (memoryAfter statuses earlier) ref =
          lastReturned (OrderedMap.lookup statuses ref) earlier ref) :=
  ⟨fun _ hmem hfailed => exists_accepted_of_failed (hsuccessive.isSound_of_mem hmem) hfailed,
    lookup_memoryAfter_iff hsuccessive⟩

/-! ## A detection that fails on its second resource -/

section HalfRead

/-- The index of the watches. -/
def watchStore : ResourceRef := ⟨".watches", "index"⟩

/-- The index of the watches that were triggered. -/
def triggeredStore : ResourceRef := ⟨".triggered_watches", "index"⟩

/-- An answer without an entry for the watches, whose entry for the triggered watches requires an
action that is not known. -/
def halfText : List Char :=
  objectText [("indices", objectText
    [(".triggered_watches", objectText [("action_required", "\"rebuild\"".toList)])])]

/-- The watches are completed, and the triggered watches are not read. -/
def isHalfRead
    (reported : Json.Members) : Bool :=
  match classify watchStore (OrderedMap.lookup reported watchStore.name),
    classify triggeredStore (OrderedMap.lookup reported triggeredStore.name) with
  | .ok .completed, .error _ => true
  | _, _ => false

/-- An answer that requires an upgrade of the watches. -/
def upgradeText : List Char :=
  objectText [("indices", objectText
    [(".watches", objectText [("action_required", "\"upgrade\"".toList)])])]

/-- Nothing is ahead of a resource that is completed. -/
theorem not_isBehind_completed
    {session : Session} {ref : ResourceRef} {previous : MigrationStatus} :
    ¬IsBehind session ref previous .completed :=
  fun hbehind => Nat.not_lt.mpr previous.rank_le_two hbehind.2

/-- Whatever is remembered, the detection of both resources fails, and the first of them is then
remembered as completed. -/
theorem exists_runs_detect_of_halfRead
    (path : String) :
    Classifies (.ok ⟨200, String.ofList halfText⟩) watchStore .completed ∧
    ∀ before, ∃ events failure,
      (detect path [watchStore, triggeredStore]).Runs before events (.error failure)
        (remember before watchStore .completed) ∧
      exchanges events =
        [⟨assistanceRequest path, .ok ⟨200, String.ofList halfText⟩⟩] ∧
      IsFatal failure := by
  have hhalf : holdsObject (describesResources isHalfRead) halfText = true := by
    decide +kernel
  obtain ⟨body, reported, hbody, hindices, htest⟩ :=
    exists_reported_of_chars halfText _ (List.cons_ne_nil _ _) hhalf
  unfold isHalfRead at htest
  split at htest
  · next failure hfirst hsecond =>
      have hok : (⟨200, String.ofList halfText⟩ : Response).ok = true := rfl
      refine ⟨⟨_, body, reported, rfl, hok, hbody, hindices, hfirst⟩, fun before => ?_⟩
      have hclassified : (classifyAll reported [] [watchStore, triggeredStore]).Runs before []
          (.error failure) (remember before watchStore .completed) :=
        runs_classifyAll_cons_iff.mpr (Or.inr ⟨.completed, hfirst, fun _ => not_isBehind_completed,
          runs_classifyAll_cons_iff.mpr (Or.inl ⟨failure, Or.inl hsecond, rfl, rfl, rfl⟩)⟩)
      obtain ⟨hrun, hexchanges⟩ :=
        (runs_detect_of_reported_iff hok hbody hindices).mpr ⟨rfl, hclassified⟩
      exact ⟨_, failure, hrun, hexchanges, isFatal_of_classify hsecond⟩
  · cases htest

/-- The watches are detected alone and then with the triggered watches, which fails.  The memory
holds what was returned for the watches. -/
theorem holds_last_returned_in_repeated :
    ∃ first second : Inquiry,
      Successive Harness.standardAssistancePath [] [first, second] ∧
      first.Returned watchStore .completed ∧
      second.Failed ∧
      OrderedMap.lookup (memoryAfter [] [first, second]) watchStore = some .completed ∧
      ∀ ref,
        OrderedMap.lookup (memoryAfter [] [first, second]) ref =
          lastReturned none [first, second] ref := by
  obtain ⟨hcompleted, hfails⟩ := exists_runs_detect_of_halfRead Harness.standardAssistancePath
  obtain ⟨front, hfirst, _⟩ := exists_runs_detect Harness.standardAssistancePath {} hcompleted
    fun _ => not_isBehind_completed
  obtain ⟨back, failure, hsecond, _, _⟩ := hfails (remember {} watchStore .completed)
  have hsuccessive : Successive Harness.standardAssistancePath []
      [⟨_, _, _, _, _⟩, ⟨_, _, _, _, _⟩] :=
    ⟨rfl, hfirst, rfl, hsecond, trivial⟩
  have hreturns : Inquiry.Failed ⟨[watchStore], {}, front, .ok [(watchStore, .completed)],
      remember {} watchStore .completed⟩ → Inquiry.Keeps ⟨[watchStore], {}, front,
        .ok [(watchStore, .completed)], remember {} watchStore .completed⟩ := by
    rintro ⟨_, hresult⟩
    cases hresult
  have hkeeps := (holds_last_returned_iff_of_successive _ _ _ hsuccessive).2.mp
    (List.forall_mem_cons.mpr ⟨hreturns, List.forall_mem_singleton.mpr fun _ => rfl⟩)
  exact ⟨_, _, hsuccessive, ⟨_, rfl, rfl⟩, ⟨failure, rfl⟩, rfl, hkeeps _ List.prefix_rfl⟩

/-- The detection of both resources fails, so that nothing is returned.  Then an answer that
requires an upgrade of the watches is refused, for they are remembered as completed. -/
theorem refuses_status_never_returned :
    ∃ (first second : Inquiry) (answer : Except Failure Response),
      Successive Harness.standardAssistancePath [] [first, second] ∧
      first.Failed ∧
      ¬first.Keeps ∧
      second.refs = [watchStore] ∧
      exchanges second.events = [⟨assistanceRequest Harness.standardAssistancePath, answer⟩] ∧
      Classifies answer watchStore .required ∧
      second.result = .error (regression watchStore .completed .required) ∧
      ∀ ref, lastReturned none [first, second] ref = none := by
  obtain ⟨_, hfails⟩ := exists_runs_detect_of_halfRead Harness.standardAssistancePath
  obtain ⟨front, failure, hfirst, _, _⟩ := hfails {}
  have hrequired : Classifies (.ok ⟨200, String.ofList upgradeText⟩) watchStore .required :=
    classifies_of_describes (List.cons_ne_nil _ _) (by decide +kernel)
  obtain ⟨back, hsecond, hexchanges⟩ := exists_runs_detect_of_isBehind
    Harness.standardAssistancePath (remember {} watchStore .completed) hrequired ⟨rfl, by decide⟩
  exact ⟨⟨_, _, _, _, _⟩, ⟨_, _, _, _, _⟩, _, ⟨rfl, hfirst, rfl, hsecond, trivial⟩, ⟨failure, rfl⟩,
    by simp [Inquiry.Keeps, OrderedMap.put], rfl, hexchanges, hrequired, rfl,
    fun _ => rfl⟩

end HalfRead

end Migration
end RestartCheck
