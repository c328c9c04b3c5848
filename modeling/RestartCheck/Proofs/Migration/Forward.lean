import RestartCheck.Proofs.Effect.Rehearsed
import RestartCheck.Proofs.Migration.Detection

/-!
# Migration only moves forward

A session remembers the status last accepted for each resource, and refuses an answer that takes a
resource back.  A detection may fail in the middle of its resources; what it has accepted up to
there is remembered all the same.

**Algorithm.**  The memory is an upper bound on everything returned so far: a detection never lowers
a remembered rank, be it successful or not, and it remembers what it returns.  So a status below an
earlier one meets a memory that is ahead of it.

**Results.**
* `runs_classifyAll_cons_iff`, `runs_detect_iff`: what a detection does, resource by resource.
* `ahead_of_runs_detect`: no detection takes the memory back.
* `remembers_of_runs_detect`, `keys_of_runs_detect`: what a detection that succeeds returns.
* `moves_forward_of_successive`: any number of detections, one after the other.
-/

namespace RestartCheck
namespace Migration

open RestartCheck.Action Trace

/-! ## What is remembered -/

/-- What was remembered is still remembered, and has not gone back. -/
def Ahead
    (before after : OrderedMap ResourceRef MigrationStatus) : Prop :=
  ∀ ref previous, OrderedMap.lookup before ref = some previous →
    ∃ status, OrderedMap.lookup after ref = some status ∧ previous.rank ≤ status.rank

/-- Everything in the first map stands in the second. -/
def Within
    (found remembered : OrderedMap ResourceRef MigrationStatus) : Prop :=
  ∀ ref status, OrderedMap.lookup found ref = some status →
    OrderedMap.lookup remembered ref = some status

section Memory

variable {before middle after found remembered : OrderedMap ResourceRef MigrationStatus}
  {ref : ResourceRef} {status : MigrationStatus}

theorem Ahead.refl
    (statuses : OrderedMap ResourceRef MigrationStatus) :
    Ahead statuses statuses :=
  fun _ previous hlookup => ⟨previous, hlookup, Nat.le_refl _⟩

theorem Ahead.trans
    (hfirst : Ahead before middle)
    (hsecond : Ahead middle after) :
    Ahead before after := by
  intro ref previous hlookup
  obtain ⟨status, hstatus, hrank⟩ := hfirst ref previous hlookup
  obtain ⟨last, hlast, hlater⟩ := hsecond ref status hstatus
  exact ⟨last, hlast, Nat.le_trans hrank hlater⟩

theorem ahead_put
    (hforward : ∀ previous, OrderedMap.lookup before ref = some previous →
      previous.rank ≤ status.rank) :
    Ahead before (OrderedMap.put before ref status) := by
  intro other previous hlookup
  by_cases hsame : other = ref
  · subst hsame
    exact ⟨status, OrderedMap.lookup_put_self _ _ _, hforward previous hlookup⟩
  · refine ⟨previous, ?_, Nat.le_refl _⟩
    rw [OrderedMap.lookup_put_of_ne _ _ hsame]
    exact hlookup

theorem Within.put
    (hwithin : Within found remembered)
    (ref : ResourceRef)
    (status : MigrationStatus) :
    Within (OrderedMap.put found ref status) (OrderedMap.put remembered ref status) := by
  intro other known hlookup
  by_cases hsame : other = ref
  · subst hsame
    rw [OrderedMap.lookup_put_self] at hlookup ⊢
    exact hlookup
  · rw [OrderedMap.lookup_put_of_ne _ _ hsame] at hlookup ⊢
    exact hwithin other known hlookup

end Memory

/-! ## Resource by resource -/

def IsFatal (failure : Failure) : Prop :=
  ∃ message details, failure = .fatal message details

/-- The answer reports success and classifies the resource with the status. -/
def Classifies
    (answer : Except Failure Response)
    (ref : ResourceRef)
    (status : MigrationStatus) : Prop :=
  ∃ response body reported,
    answer = .ok response ∧
    response.ok = true ∧
    response.object = .ok body ∧
    OrderedMap.lookup body "indices" = some (.object reported) ∧
    classify ref (OrderedMap.lookup reported ref.name) = .ok status

section Detection

variable {path : String} {refs : List ResourceRef} {reported : Json.Members}
  {done found : OrderedMap ResourceRef MigrationStatus} {before after : Session}
  {events : List Event} {result : Except Failure (OrderedMap ResourceRef MigrationStatus)}

theorem classifies_iff
    {answer : Except Failure Response} {ref : ResourceRef} {status : MigrationStatus} :
    Classifies answer ref status ↔
      ∃ reported,
        answer.bind reportedIn = .ok reported ∧
        classify ref (OrderedMap.lookup reported ref.name) = .ok status := by
  constructor
  · rintro ⟨response, body, reported, rfl, hok, hbody, hindices, hclass⟩
    exact ⟨reported, reportedIn_eq_ok_iff.mpr ⟨hok, body, hbody, hindices⟩, hclass⟩
  · rintro ⟨reported, hreported, hclass⟩
    cases answer with
    | error failure => cases hreported
    | ok response =>
        obtain ⟨hok, body, hbody, hindices⟩ := reportedIn_eq_ok_iff.mp hreported
        exact ⟨response, body, reported, rfl, hok, hbody, hindices, hclass⟩

theorem isFatal_of_classify
    {ref : ResourceRef} {entry : Option Json} {failure : Failure}
    (hclass : classify ref entry = .error failure) :
    IsFatal failure := by
  unfold classify at hclass
  split at hclass
  · cases hclass
  · cases hclass
  · split at hclass
    · cases hclass
      exact ⟨_, _, rfl⟩
    · simp only at hclass
      split at hclass
      · cases hclass
      · cases hclass
        exact ⟨_, _, rfl⟩
  · cases hclass
    exact ⟨_, _, rfl⟩

/-- The failure of a resource that cannot be classified, or is behind what is remembered. -/
def FailsWith
    (reported : Json.Members)
    (session : Session)
    (ref : ResourceRef)
    (failure : Failure) : Prop :=
  classify ref (OrderedMap.lookup reported ref.name) = .error failure ∨
  ∃ status previous,
    classify ref (OrderedMap.lookup reported ref.name) = .ok status ∧
    IsBehind session ref previous status ∧
    failure = regression ref previous status

/-- A resource that cannot be classified, or is behind what is remembered, ends the classification.
Otherwise its status is remembered and the others follow. -/
theorem runs_classifyAll_cons_iff
    {ref : ResourceRef} {rest : List ResourceRef} :
    (classifyAll reported done (ref :: rest)).Runs before events result after ↔
      (∃ failure,
        FailsWith reported before ref failure ∧
        events = [] ∧ result = .error failure ∧ after = before)
      ∨
      (∃ status,
        classify ref (OrderedMap.lookup reported ref.name) = .ok status ∧
        (∀ previous, ¬IsBehind before ref previous status) ∧
        (classifyAll reported (OrderedMap.put done ref status) rest).Runs
          (remember before ref status) events result after) := by
  rw [classifyAll, runs_liftM_bind_iff]
  simp only [runs_bind_iff, runs_advance_iff]
  constructor
  · rintro (⟨status, hclass, ⟨_, middle, front, back, rfl, ⟨rfl, hadvance⟩, hrest⟩ |
      ⟨failure, rfl, rfl, hadvance⟩⟩ | ⟨failure, hclass, hend⟩)
    · rcases hadvance with ⟨_, _, hresult, _⟩ | ⟨hahead, _, rfl⟩
      · cases hresult
      · exact Or.inr ⟨status, hclass, hahead, hrest⟩
    · rcases hadvance with ⟨previous, hbehind, hresult, rfl⟩ | ⟨_, hresult, _⟩
      · cases hresult
        exact Or.inl ⟨_, Or.inr ⟨status, previous, hclass, hbehind, rfl⟩, rfl, rfl, rfl⟩
      · cases hresult
    · exact Or.inl ⟨failure, Or.inl hclass, hend⟩
  · rintro (⟨failure, hclass | ⟨status, previous, hclass, hbehind, rfl⟩, rfl, rfl, rfl⟩ |
      ⟨status, hclass, hahead, hrest⟩)
    · exact Or.inr ⟨failure, hclass, rfl, rfl, rfl⟩
    · exact Or.inl ⟨status, hclass, Or.inr ⟨_, rfl, rfl, Or.inl ⟨previous, hbehind, rfl, rfl⟩⟩⟩
    · exact Or.inl ⟨status, hclass, Or.inl
        ⟨(), _, [], events, rfl, ⟨rfl, Or.inr ⟨hahead, trivial, rfl⟩⟩, hrest⟩⟩

theorem events_of_runs_classifyAll
    (hrun : (classifyAll reported done refs).Runs before events result after) :
    events = [] := by
  induction refs generalizing done before with
  | nil => exact (runs_pure_iff.mp hrun).1
  | cons ref rest ih =>
      rcases runs_classifyAll_cons_iff.mp hrun with ⟨_, _, rfl, _⟩ | ⟨_, _, _, hrest⟩
      · rfl
      · exact ih hrest

/-- No classification takes the memory back, also when it fails on the way. -/
theorem ahead_of_runs_classifyAll
    (hrun : (classifyAll reported done refs).Runs before events result after) :
    Ahead before.statuses after.statuses := by
  induction refs generalizing done before with
  | nil =>
      obtain ⟨_, _, rfl⟩ := runs_pure_iff.mp hrun
      exact Ahead.refl _
  | cons ref rest ih =>
      rcases runs_classifyAll_cons_iff.mp hrun with ⟨_, _, _, _, rfl⟩ | ⟨status, _, hahead, hrest⟩
      · exact Ahead.refl _
      · refine Ahead.trans (ahead_put fun previous hlookup => ?_) (ih hrest)
        exact Nat.not_lt.mp fun hrank => hahead previous ⟨hlookup, hrank⟩

theorem isFatal_of_runs_classifyAll
    {failure : Failure}
    (hrun : (classifyAll reported done refs).Runs before events (.error failure) after) :
    IsFatal failure := by
  induction refs generalizing done before with
  | nil =>
      obtain ⟨_, hresult, _⟩ := runs_pure_iff.mp hrun
      cases hresult
  | cons ref rest ih =>
      rcases runs_classifyAll_cons_iff.mp hrun with
        ⟨_, hclass | ⟨_, _, _, _, rfl⟩, _, hresult, _⟩ | ⟨_, _, _, hrest⟩
      · cases hresult
        exact isFatal_of_classify hclass
      · cases hresult
        exact ⟨_, _, rfl⟩
      · exact ih hrest

/-- What was classified so far stays remembered, and so is what is classified next. -/
theorem within_of_runs_classifyAll
    (hrun : (classifyAll reported done refs).Runs before events (.ok found) after)
    (hdone : Within done before.statuses) :
    Within found after.statuses := by
  induction refs generalizing done before with
  | nil =>
      obtain ⟨_, hfound, rfl⟩ := runs_pure_iff.mp hrun
      cases hfound
      exact hdone
  | cons ref rest ih =>
      rcases runs_classifyAll_cons_iff.mp hrun with ⟨_, _, _, hresult, _⟩ | ⟨status, _, _, hrest⟩
      · cases hresult
      · exact ih hrest (hdone.put ref status)

/-- The resources stand in the order in which they first appear. -/
theorem keys_of_runs_classifyAll
    (earlier : List ResourceRef)
    (hrun : (classifyAll reported done refs).Runs before events (.ok found) after)
    (hdone : OrderedMap.keys done = earlier.eraseDups) :
    OrderedMap.keys found = (earlier ++ refs).eraseDups := by
  induction refs generalizing done before earlier with
  | nil =>
      obtain ⟨_, hfound, _⟩ := runs_pure_iff.mp hrun
      cases hfound
      rw [hdone, List.append_nil]
  | cons ref rest ih =>
      rcases runs_classifyAll_cons_iff.mp hrun with ⟨_, _, _, hresult, _⟩ | ⟨status, _, _, hrest⟩
      · cases hresult
      · have hkeys : OrderedMap.keys (OrderedMap.put done ref status) =
            (earlier ++ [ref]).eraseDups := by
          rw [OrderedMap.keys_put, hdone, List.eraseDups_append]
          by_cases hmem : ref ∈ earlier <;>
            simp [List.removeAll, List.eraseDups_cons, hmem]
        rw [ih (earlier ++ [ref]) hrest hkeys, List.append_assoc, List.singleton_append]

/-- The log entry about an answer that describes resources. -/
def assistanceNote
    (session : Session)
    (reported : Json.Members) : Event :=
  noted session .info "migration_assistance"
    [("required", .json (.array ((Text.sorted (OrderedMap.keys reported)).map .string)))]

/-- A detection is one exchange.  It fails when the answer describes no resources; otherwise it
classifies them. -/
theorem runs_detect_iff :
    (detect path refs).Runs before events result after ↔
      ∃ answer,
        (∃ failure,
          answer.bind reportedIn = .error failure ∧
          events = [⟨.call (assistanceRequest path), answer⟩] ∧
          result = .error failure ∧ after = before)
        ∨
        (∃ reported,
          answer.bind reportedIn = .ok reported ∧
          events = [⟨.call (assistanceRequest path), answer⟩, assistanceNote before reported] ∧
          (classifyAll reported [] refs).Runs before [] result after) := by
  unfold detect
  rw [runs_call_bind_iff]
  simp only [runs_liftM_bind_iff, runs_note_bind_iff]
  constructor
  · rintro (⟨response, rest, rfl, ⟨reported, hreported, tail, rfl, hrest⟩ |
      ⟨failure, hreported, rfl, rfl, rfl⟩⟩ | ⟨failure, rfl, rfl, rfl⟩)
    · obtain rfl := events_of_runs_classifyAll hrest
      exact ⟨.ok response, Or.inr ⟨reported, hreported, rfl, hrest⟩⟩
    · exact ⟨.ok response, Or.inl ⟨failure, hreported, rfl, rfl, rfl⟩⟩
    · exact ⟨.error failure, Or.inl ⟨failure, rfl, rfl, rfl, rfl⟩⟩
  · rintro ⟨answer, ⟨failure, hreported, rfl, rfl, rfl⟩ | ⟨reported, hreported, rfl, hrest⟩⟩
    · cases answer with
      | error known =>
          cases hreported
          exact Or.inr ⟨failure, rfl, rfl, rfl⟩
      | ok response => exact Or.inl ⟨response, [], rfl, Or.inr ⟨failure, hreported, rfl, rfl, rfl⟩⟩
    · cases answer with
      | error known => cases hreported
      | ok response =>
          exact Or.inl ⟨response, _, rfl, Or.inl ⟨reported, hreported, [], rfl, hrest⟩⟩

end Detection

/-! ## One detection -/

/-- One run of a detection. -/
structure Inquiry where
  refs : List ResourceRef
  before : Session
  events : List Event
  result : Except Failure (OrderedMap ResourceRef MigrationStatus)
  after : Session

namespace Inquiry

def IsSound
    (path : String)
    (inquiry : Inquiry) : Prop :=
  (detect path inquiry.refs).Runs inquiry.before inquiry.events inquiry.result inquiry.after

/-- The detection succeeded and returned the status for the resource. -/
def Returned
    (inquiry : Inquiry)
    (ref : ResourceRef)
    (status : MigrationStatus) : Prop :=
  ∃ found, inquiry.result = .ok found ∧ OrderedMap.lookup found ref = some status

/-- What an earlier detection returned binds a later one: it returns nothing that is behind, and an
answer that is behind is fatal. -/
structure Binds
    (path : String)
    (earlier later : Inquiry) : Prop where
  returned : ∀ ref status next,
    earlier.Returned ref status → later.Returned ref next → status.rank ≤ next.rank
  refused : ∀ ref status next answer,
    earlier.Returned ref status →
    ref ∈ later.refs →
    ⟨assistanceRequest path, answer⟩ ∈ exchanges later.events →
    Classifies answer ref next →
    next.rank < status.rank →
    ∃ failure, later.result = .error failure ∧ IsFatal failure

end Inquiry

section Consequences

variable {path : String} {refs : List ResourceRef}
  {found : OrderedMap ResourceRef MigrationStatus} {before after : Session}
  {events : List Event} {result : Except Failure (OrderedMap ResourceRef MigrationStatus)}

theorem exists_exchange_of_runs_detect
    (hrun : (detect path refs).Runs before events result after) :
    ∃ answer, exchanges events = [⟨assistanceRequest path, answer⟩] := by
  obtain ⟨answer, ⟨_, _, rfl, _⟩ | ⟨_, _, rfl, _⟩⟩ := runs_detect_iff.mp hrun
  · exact ⟨answer, rfl⟩
  · exact ⟨answer, rfl⟩

theorem ahead_of_runs_detect
    (hrun : (detect path refs).Runs before events result after) :
    Ahead before.statuses after.statuses := by
  obtain ⟨_, ⟨_, _, _, _, rfl⟩ | ⟨_, _, _, hclassified⟩⟩ := runs_detect_iff.mp hrun
  · exact Ahead.refl _
  · exact ahead_of_runs_classifyAll hclassified

theorem keys_of_runs_detect
    (hrun : (detect path refs).Runs before events (.ok found) after) :
    OrderedMap.keys found = refs.eraseDups := by
  obtain ⟨_, ⟨_, _, _, hresult, _⟩ | ⟨_, _, _, hclassified⟩⟩ := runs_detect_iff.mp hrun
  · cases hresult
  · exact keys_of_runs_classifyAll [] hclassified rfl

theorem remembers_of_runs_detect
    (hrun : (detect path refs).Runs before events (.ok found) after) :
    Within found after.statuses := by
  obtain ⟨_, ⟨_, _, _, hresult, _⟩ | ⟨_, _, _, hclassified⟩⟩ := runs_detect_iff.mp hrun
  · cases hresult
  · exact within_of_runs_classifyAll hclassified fun _ _ hlookup => by cases hlookup

/-- An answer that takes a requested resource behind what is remembered is fatal. -/
theorem isFatal_of_runs_detect
    {ref : ResourceRef} {previous status : MigrationStatus} {answer : Except Failure Response}
    (hrun : (detect path refs).Runs before events result after)
    (hmem : ref ∈ refs)
    (hexchange : ⟨assistanceRequest path, answer⟩ ∈ exchanges events)
    (hclass : Classifies answer ref status)
    (hbehind : IsBehind before ref previous status) :
    ∃ failure, result = .error failure ∧ IsFatal failure := by
  obtain ⟨reported, hreported, hstatus⟩ := classifies_iff.mp hclass
  obtain ⟨known, ⟨_, hknown, rfl, _⟩ | ⟨described, hdescribed, rfl, hclassified⟩⟩ :=
    runs_detect_iff.mp hrun
  · cases List.mem_singleton.mp hexchange
    cases hreported.symm.trans hknown
  · cases List.mem_singleton.mp hexchange
    cases hreported.symm.trans hdescribed
    cases result with
    | error failure => exact ⟨failure, rfl, isFatal_of_runs_classifyAll hclassified⟩
    | ok found =>
        -- A detection that succeeds has remembered the status, which then is not behind.
        obtain ⟨classified, hclassifies, hfound⟩ :=
          lookup_of_runs_classifyAll hclassified (Or.inl hmem)
        cases hstatus.symm.trans hclassifies
        have hremembered := remembers_of_runs_detect hrun ref status hfound
        obtain ⟨last, hlast, hrank⟩ :=
          ahead_of_runs_classifyAll hclassified ref previous hbehind.1
        cases hremembered.symm.trans hlast
        exact absurd hbehind.2 (Nat.not_lt.mpr hrank)

end Consequences

/-! ## Any number of detections -/

/-- Every detection finds the statuses that the one before left.  Between them the context bound for
log entries may change. -/
def Successive
    (path : String) :
    OrderedMap ResourceRef MigrationStatus → List Inquiry → Prop
  | _, [] => True
  | statuses, inquiry :: rest =>
      inquiry.before.statuses = statuses ∧
      inquiry.IsSound path ∧
      Successive path inquiry.after.statuses rest

section Run

variable {path : String} {statuses : OrderedMap ResourceRef MigrationStatus}
  {inquiries : List Inquiry} {inquiry : Inquiry}

theorem Successive.isSound_of_mem
    (hsuccessive : Successive path statuses inquiries)
    (hmem : inquiry ∈ inquiries) :
    inquiry.IsSound path := by
  induction inquiries generalizing statuses with
  | nil => cases hmem
  | cons first rest ih =>
      obtain ⟨_, hfirst, hrest⟩ := hsuccessive
      rcases List.mem_cons.mp hmem with rfl | hmem
      · exact hfirst
      · exact ih hrest hmem

/-- Along the detections the memory moves forward. -/
theorem Successive.ahead_of_mem
    (hsuccessive : Successive path statuses inquiries)
    (hmem : inquiry ∈ inquiries) :
    Ahead statuses inquiry.before.statuses := by
  induction inquiries generalizing statuses with
  | nil => cases hmem
  | cons first rest ih =>
      obtain ⟨rfl, hfirst, hrest⟩ := hsuccessive
      rcases List.mem_cons.mp hmem with rfl | hmem
      · exact Ahead.refl _
      · exact (ahead_of_runs_detect hfirst).trans (ih hrest hmem)

/-- A detection binds every one that starts from a memory ahead of what it left. -/
theorem binds_of_ahead
    {earlier later : Inquiry}
    (hearlier : earlier.IsSound path)
    (hlater : later.IsSound path)
    (hahead : Ahead earlier.after.statuses later.before.statuses) :
    earlier.Binds path later := by
  have hremembered : ∀ ref status, earlier.Returned ref status →
      ∃ previous,
        OrderedMap.lookup later.before.statuses ref = some previous ∧
        status.rank ≤ previous.rank := by
    rintro ref status ⟨found, hresult, hfound⟩
    unfold Inquiry.IsSound at hearlier
    rw [hresult] at hearlier
    exact hahead ref status (remembers_of_runs_detect hearlier ref status hfound)
  constructor
  · rintro ref status next hreturned ⟨found, hresult, hfound⟩
    obtain ⟨previous, hprevious, hrank⟩ := hremembered ref status hreturned
    obtain ⟨last, hlast, hlastRank⟩ := ahead_of_runs_detect hlater ref previous hprevious
    unfold Inquiry.IsSound at hlater
    rw [hresult] at hlater
    cases (remembers_of_runs_detect hlater ref next hfound).symm.trans hlast
    exact Nat.le_trans hrank hlastRank
  · intro ref status next answer hreturned hmem hexchange hclass hbehind
    obtain ⟨previous, hprevious, hrank⟩ := hremembered ref status hreturned
    exact isFatal_of_runs_detect hlater hmem hexchange hclass
      ⟨hprevious, Nat.lt_of_lt_of_le hbehind hrank⟩

theorem Successive.pairwise_binds
    (hsuccessive : Successive path statuses inquiries) :
    inquiries.Pairwise (Inquiry.Binds path) := by
  induction inquiries generalizing statuses with
  | nil => exact List.Pairwise.nil
  | cons first rest ih =>
      obtain ⟨_, hfirst, hrest⟩ := hsuccessive
      refine List.pairwise_cons.mpr ⟨fun later hmem => ?_, ih hrest⟩
      exact binds_of_ahead hfirst (hrest.isSound_of_mem hmem) (hrest.ahead_of_mem hmem)

end Run

/-- **Migration only moves forward.**  Over any sequence of detections, each of them exchanges one
request with the service; each that succeeds returns exactly the requested resources; none returns a
status behind one returned earlier; and an answer that is behind one returned earlier is fatal. -/
theorem moves_forward_of_successive
    (path : String)
    (statuses : OrderedMap ResourceRef MigrationStatus)
    (inquiries : List Inquiry)
    (hsuccessive : Successive path statuses inquiries) :
    (∀ inquiry ∈ inquiries,
      (∃ answer, exchanges inquiry.events = [⟨assistanceRequest path, answer⟩]) ∧
      ∀ found, inquiry.result = .ok found → OrderedMap.keys found = inquiry.refs.eraseDups) ∧
    inquiries.Pairwise (Inquiry.Binds path) := by
  refine ⟨fun inquiry hmem => ?_, hsuccessive.pairwise_binds⟩
  have hsound : inquiry.IsSound path := hsuccessive.isSound_of_mem hmem
  refine ⟨exists_exchange_of_runs_detect hsound, fun found hresult => ?_⟩
  unfold Inquiry.IsSound at hsound
  rw [hresult] at hsound
  exact keys_of_runs_detect hsound

section Regression

variable {ref : ResourceRef} {status : MigrationStatus} {answer : Except Failure Response}

/-- The members of an answer classify the resource with the status. -/
def describes
    (ref : ResourceRef)
    (status : MigrationStatus)
    (body : Json.Members) : Bool :=
  match OrderedMap.lookup body "indices" with
  | some (.object reported) =>
      match classify ref (OrderedMap.lookup reported ref.name) with
      | .ok known => known == status
      | .error _ => false
  | _ => false

theorem classifies_of_describes
    {text : List Char}
    (hnonempty : text ≠ [])
    (hdescribes : holdsObject (describes ref status) text = true) :
    Classifies (.ok ⟨200, String.ofList text⟩) ref status := by
  obtain ⟨body, hbody, htest⟩ := exists_object_of_chars 200 _ hnonempty hdescribes
  unfold describes at htest
  split at htest
  · next reported hindices =>
      split at htest
      · next known hknown =>
          cases eq_of_beq htest
          exact ⟨_, body, reported, rfl, rfl, hbody, hindices, hknown⟩
      · cases htest
  · cases htest

/-- A detection of one resource whose status is not behind succeeds. -/
theorem exists_runs_detect
    (path : String)
    (before : Session)
    (hclass : Classifies answer ref status)
    (hahead : ∀ previous, ¬IsBehind before ref previous status) :
    ∃ events,
      (detect path [ref]).Runs before events (.ok [(ref, status)]) (remember before ref status) ∧
      exchanges events = [⟨assistanceRequest path, answer⟩] := by
  obtain ⟨reported, hreported, hstatus⟩ := classifies_iff.mp hclass
  refine ⟨_, runs_detect_iff.mpr ⟨answer, Or.inr ⟨reported, hreported, rfl, ?_⟩⟩, rfl⟩
  exact runs_classifyAll_cons_iff.mpr
    (Or.inr ⟨status, hstatus, hahead, runs_pure_iff.mpr ⟨rfl, rfl, rfl⟩⟩)

/-- A detection of one resource whose status is behind fails. -/
theorem exists_runs_detect_of_isBehind
    {previous : MigrationStatus}
    (path : String)
    (before : Session)
    (hclass : Classifies answer ref status)
    (hbehind : IsBehind before ref previous status) :
    ∃ events,
      (detect path [ref]).Runs before events (.error (regression ref previous status)) before ∧
      exchanges events = [⟨assistanceRequest path, answer⟩] := by
  obtain ⟨reported, hreported, hstatus⟩ := classifies_iff.mp hclass
  refine ⟨_, runs_detect_iff.mpr ⟨answer, Or.inr ⟨reported, hreported, rfl, ?_⟩⟩, rfl⟩
  exact runs_classifyAll_cons_iff.mpr
    (Or.inl ⟨_, Or.inr ⟨status, previous, hstatus, hbehind, rfl⟩, rfl, rfl, rfl⟩)

/-- A store that was reported as completed and then as required. -/
theorem refused_after_completed :
    ∃ (first second : Inquiry) (ref : ResourceRef) (answer : Except Failure Response),
      Successive Harness.standardAssistancePath [] [first, second] ∧
      first.Returned ref .completed ∧
      ref ∈ second.refs ∧
      exchanges second.events = [⟨assistanceRequest Harness.standardAssistancePath, answer⟩] ∧
      Classifies answer ref .required ∧
      ∃ failure, second.result = .error failure ∧ IsFatal failure := by
  have hcompleted : Classifies
      (.ok ⟨200, String.ofList (objectText [("indices", objectText [])])⟩)
      ⟨".watches", "index"⟩ .completed :=
    classifies_of_describes (List.cons_ne_nil _ _) (by decide +kernel)
  have hrequired : Classifies
      (.ok ⟨200, String.ofList (objectText [("indices", objectText [(".watches",
        objectText [("action_required", "\"upgrade\"".toList)])])])⟩)
      ⟨".watches", "index"⟩ .required :=
    classifies_of_describes (List.cons_ne_nil _ _) (by decide +kernel)
  obtain ⟨front, hfirst, _⟩ := exists_runs_detect Harness.standardAssistancePath {}
    hcompleted (by rintro previous ⟨hlookup, _⟩; cases hlookup)
  obtain ⟨back, hsecond, hexchanges⟩ := exists_runs_detect_of_isBehind
    Harness.standardAssistancePath (remember {} ⟨".watches", "index"⟩ .completed)
    hrequired ⟨rfl, by decide⟩
  have hsuccessive : Successive Harness.standardAssistancePath []
      [⟨_, _, _, _, _⟩, ⟨_, _, _, _, _⟩] :=
    ⟨rfl, hfirst, rfl, hsecond, trivial⟩
  have hbinds := (List.pairwise_cons.mp
    (moves_forward_of_successive _ _ _ hsuccessive).2).1 _ List.mem_cons_self
  refine ⟨_, _, _, _, hsuccessive, ⟨_, rfl, rfl⟩, List.mem_cons_self, hexchanges, hrequired, ?_⟩
  exact hbinds.refused _ .completed _ _ ⟨_, rfl, rfl⟩ List.mem_cons_self
    (by rw [hexchanges]; exact List.mem_cons_self) hrequired (by decide)

end Regression

end Migration
end RestartCheck
