import Mathlib.Data.List.Forall2
import RestartCheck.Proofs.Migration.Forward

/-!
# Every resource that needs migration is triggered once

The migration cycle detects, triggers what is required, and waits until a later detection leaves
nothing pending.  Which resources are triggered is decided by the first detection alone: they are
triggered in the order in which they were first named, up to the first command that fails, and what
the detections of the wait report triggers nothing.

**Results.**
* `exists_answer_of_runs_migrate`: a migration command is one exchange, which decides its outcome.
* `exists_posts_of_runs_triggerRequired`: the commands that are sent, by induction on the statuses.
* `settles_of_runs_awaitMigrated`: a wait that ends normally ends with an answer that leaves nothing
  pending.
* `triggers_once_of_runs_migratePending`: the whole cycle.
-/

namespace RestartCheck
namespace Migration

open RestartCheck.Action Trace

/-! ## Commands -/

/-- What a migration command comes to, given the answer to it. -/
def outcomeOf
    (ref : ResourceRef)
    (answer : Except Failure Response) : Except Failure MigrationOutcome :=
  (answer.bind (workCount ref)).map MigrationOutcome.ofCount

/-- The exchange is the command for the resource, and the answer to it has the outcome. -/
def Performed
    (path : String)
    (entry : ResourceRef × MigrationOutcome)
    (exchange : Exchange) : Prop :=
  exchange.request = upgradeRequest path entry.1 ∧
  outcomeOf entry.1 exchange.answer = .ok entry.2

/-- Every resource has been triggered once, in order, with the outcome of its own command. -/
def TriggersAll
    (path : String)
    (refs : List ResourceRef)
    (posts : List Exchange)
    (outcomes : OrderedMap ResourceRef MigrationOutcome) : Prop :=
  OrderedMap.keys outcomes = refs ∧ List.Forall₂ (Performed path) outcomes posts

/-- The resources have been triggered once, in order, up to one whose command fails; those behind it
have not been triggered. -/
def StopsAt
    (path : String)
    (refs : List ResourceRef)
    (posts : List Exchange)
    (failure : Failure) : Prop :=
  ∃ outcomes performed ref answer left,
    refs = OrderedMap.keys outcomes ++ ref :: left ∧
    posts = performed ++ [⟨upgradeRequest path ref, answer⟩] ∧
    List.Forall₂ (Performed path) outcomes performed ∧
    outcomeOf ref answer = .error failure

/-- The answer classifies every resource as one that needs no migration any more. -/
def Settles
    (answer : Except Failure Response)
    (refs : List ResourceRef) : Prop :=
  ∀ ref ∈ refs, Classifies answer ref .notRequired ∨ Classifies answer ref .completed

section Commands

variable {path : String} {ref : ResourceRef} {refs : List ResourceRef} {posts : List Exchange}
  {outcome : MigrationOutcome} {outcomes : OrderedMap ResourceRef MigrationOutcome}
  {exchange : Exchange} {failure : Failure} {before after : Session} {events : List Event}

theorem TriggersAll.cons
    (hexchange : Performed path (ref, outcome) exchange)
    (hrest : TriggersAll path refs posts outcomes) :
    TriggersAll path (ref :: refs) (exchange :: posts) ((ref, outcome) :: outcomes) :=
  ⟨congrArg (ref :: ·) hrest.1, List.Forall₂.cons hexchange hrest.2⟩

theorem StopsAt.cons
    (hexchange : Performed path (ref, outcome) exchange)
    (hrest : StopsAt path refs posts failure) :
    StopsAt path (ref :: refs) (exchange :: posts) failure := by
  obtain ⟨outcomes, performed, last, answer, left, rfl, rfl, hall, hlast⟩ := hrest
  exact ⟨(ref, outcome) :: outcomes, exchange :: performed, last, answer, left, rfl, rfl,
    List.Forall₂.cons hexchange hall, hlast⟩

/-- A migration command is one exchange, and its answer decides what it comes to. -/
theorem exists_answer_of_runs_migrate
    {result : Except Failure MigrationOutcome}
    (hrun : (migrate path ref).Runs before events result after) :
    ∃ answer,
      exchanges events = [⟨upgradeRequest path ref, answer⟩] ∧
      sleeps events = [] ∧
      result = outcomeOf ref answer := by
  rcases runs_call_bind_iff.mp hrun with ⟨response, rest, rfl, hcounted⟩ | ⟨failure, rfl, rfl, _⟩
  · refine ⟨.ok response, ?_⟩
    rcases runs_liftM_bind_iff.mp hcounted with
      ⟨total, htotal, htold⟩ | ⟨failure, hfailed, rfl, rfl, _⟩
    · have hend : ∃ fields event, rest = [noted before .info event fields] ∧
          result = .ok (MigrationOutcome.ofCount total) := by
        split at htold
        · obtain ⟨tail, rfl, hpure⟩ := runs_note_bind_iff.mp htold
          obtain ⟨rfl, hresult, _⟩ := runs_pure_iff.mp hpure
          exact ⟨_, _, rfl, hresult⟩
        · obtain ⟨tail, rfl, hpure⟩ := runs_note_bind_iff.mp htold
          obtain ⟨rfl, hresult, _⟩ := runs_pure_iff.mp hpure
          exact ⟨_, _, rfl, hresult⟩
      obtain ⟨fields, event, rfl, rfl⟩ := hend
      refine ⟨rfl, rfl, ?_⟩
      simp [outcomeOf, Except.bind, Except.map, htotal]
    · refine ⟨rfl, rfl, ?_⟩
      simp [outcomeOf, Except.bind, Except.map, hfailed]
  · exact ⟨.error failure, rfl, rfl, rfl⟩

end Commands

/-! ## All commands -/

/-- The resources that are required, in order. -/
def requiredIn (statuses : OrderedMap ResourceRef MigrationStatus) : List ResourceRef :=
  (statuses.filter fun entry => entry.2 = .required).map Prod.fst

section AllCommands

variable {path : String} {done : OrderedMap ResourceRef MigrationOutcome}
  {statuses : OrderedMap ResourceRef MigrationStatus} {before after : Session}
  {events : List Event} {result : Except Failure (OrderedMap ResourceRef MigrationOutcome)}

theorem put_of_notMem
    {κ ν : Type} [DecidableEq κ] {map : OrderedMap κ ν} {key : κ}
    (hnew : key ∉ OrderedMap.keys map)
    (value : ν) :
    OrderedMap.put map key value = map ++ [(key, value)] := by
  induction map with
  | nil => rfl
  | cons entry rest ih =>
      obtain ⟨known, old⟩ := entry
      rw [OrderedMap.keys, List.map_cons, List.mem_cons, not_or] at hnew
      rw [OrderedMap.put_cons, if_neg hnew.1, ih hnew.2, List.cons_append]

/-- The commands that are sent: one for each resource that is required, up to the first that
fails. -/
theorem exists_posts_of_runs_triggerRequired
    (hrun : (triggerRequired path done statuses).Runs before events result after)
    (hnew : (OrderedMap.keys done ++ OrderedMap.keys statuses).Nodup) :
    sleeps events = [] ∧
    ((∃ outcomes,
        result = .ok (done ++ outcomes) ∧
        TriggersAll path (requiredIn statuses) (exchanges events) outcomes)
      ∨
      (∃ failure,
        result = .error failure ∧
        StopsAt path (requiredIn statuses) (exchanges events) failure)) := by
  -- The resources triggered so far grow, and none of them occurs again.
  induction statuses generalizing done before events with
  | nil =>
      obtain ⟨rfl, rfl, _⟩ := runs_pure_iff.mp hrun
      exact ⟨rfl, Or.inl ⟨[], by rw [List.append_nil], rfl, List.Forall₂.nil⟩⟩
  | cons entry rest ih =>
      obtain ⟨ref, status⟩ := entry
      have hmoved : (OrderedMap.keys done ++ [ref] ++ OrderedMap.keys rest).Nodup := by
        rw [List.append_assoc]
        exact hnew
      unfold triggerRequired at hrun
      by_cases hrequired : status = .required
      · have hlist : requiredIn ((ref, status) :: rest) = ref :: requiredIn rest := by
          simp [requiredIn, hrequired]
        rw [if_pos hrequired] at hrun
        rw [hlist]
        rcases runs_bind_iff.mp hrun with
          ⟨outcome, middle, front, back, rfl, hmigrated, hrest⟩ | ⟨failure, rfl, hmigrated⟩
        · obtain ⟨answer, hposted, hawake, houtcome⟩ := exists_answer_of_runs_migrate hmigrated
          have hperformed : Performed path (ref, outcome) ⟨upgradeRequest path ref, answer⟩ :=
            ⟨rfl, houtcome.symm⟩
          have hfresh : ref ∉ OrderedMap.keys done := by
            intro hmem
            exact (List.nodup_append.mp hnew).2.2 ref hmem ref List.mem_cons_self rfl
          rw [put_of_notMem hfresh] at hrest
          have hkeys : OrderedMap.keys (done ++ [(ref, outcome)]) = OrderedMap.keys done ++ [ref] :=
            List.map_append
          rw [exchanges_append, sleeps_append, hposted, hawake, List.singleton_append,
            List.nil_append]
          obtain ⟨hquiet, hend⟩ := ih hrest (by rw [hkeys]; exact hmoved)
          refine ⟨hquiet, ?_⟩
          rcases hend with ⟨outcomes, rfl, hall⟩ | ⟨failure, rfl, hstops⟩
          · refine Or.inl ⟨(ref, outcome) :: outcomes, ?_, hall.cons hperformed⟩
            rw [List.append_assoc, List.singleton_append]
          · exact Or.inr ⟨failure, rfl, hstops.cons hperformed⟩
        · obtain ⟨answer, hposted, hawake, houtcome⟩ := exists_answer_of_runs_migrate hmigrated
          refine ⟨hawake, Or.inr ⟨failure, rfl, [], [], ref, answer, requiredIn rest, rfl, ?_,
            List.Forall₂.nil, houtcome.symm⟩⟩
          rw [hposted, List.nil_append]
      · have hlist : requiredIn ((ref, status) :: rest) = requiredIn rest := by
          simp [requiredIn, hrequired]
        rw [if_neg hrequired] at hrun
        rw [hlist]
        refine ih hrun (List.Nodup.sublist ?_ hmoved)
        rw [List.append_assoc]
        exact List.Sublist.append_left (List.sublist_append_right _ _) _

/-- The required resources among the keys of statuses that are told apart. -/
theorem requiredIn_eq_filter
    (hnodup : (OrderedMap.keys statuses).Nodup) :
    requiredIn statuses =
      (OrderedMap.keys statuses).filter fun ref =>
        OrderedMap.lookup statuses ref = some .required := by
  induction statuses with
  | nil => rfl
  | cons entry rest ih =>
      obtain ⟨ref, status⟩ := entry
      obtain ⟨hnotMem, hrest⟩ := List.nodup_cons.mp hnodup
      have hothers : ((OrderedMap.keys rest).filter fun other =>
            OrderedMap.lookup ((ref, status) :: rest) other = some .required) =
          (OrderedMap.keys rest).filter fun other =>
            OrderedMap.lookup rest other = some .required := by
        refine List.filter_congr fun other hother => ?_
        have hne : other ≠ ref := by
          rintro rfl
          exact hnotMem hother
        rw [OrderedMap.lookup_cons, if_neg hne]
      change _ = (ref :: OrderedMap.keys rest).filter _
      rw [List.filter_cons, hothers, ← ih hrest, OrderedMap.lookup_cons, if_pos rfl]
      by_cases hrequired : status = .required <;> simp [requiredIn, hrequired]

end AllCommands

/-! ## The wait -/

section Wait

variable {path : String} {refs : List ResourceRef}
  {done found : OrderedMap ResourceRef MigrationStatus} {before after : Session}
  {events : List Event}

theorem nodup_keys_of_runs_classifyAll
    {reported : Json.Members}
    (hrun : (classifyAll reported done refs).Runs before events (.ok found) after)
    (hdone : (OrderedMap.keys done).Nodup) :
    (OrderedMap.keys found).Nodup := by
  induction refs generalizing done before with
  | nil =>
      obtain ⟨_, hfound, _⟩ := runs_pure_iff.mp hrun
      cases hfound
      exact hdone
  | cons ref rest ih =>
      rcases runs_classifyAll_cons_iff.mp hrun with ⟨_, _, _, hresult, _⟩ | ⟨status, _, _, hrest⟩
      · cases hresult
      · exact ih hrest (OrderedMap.nodup_keys_put hdone ref status)

theorem nodup_keys_of_runs_detect
    (hrun : (detect path refs).Runs before events (.ok found) after) :
    (OrderedMap.keys found).Nodup := by
  obtain ⟨_, ⟨_, _, _, hresult, _⟩ | ⟨_, _, _, hclassified⟩⟩ := runs_detect_iff.mp hrun
  · cases hresult
  · exact nodup_keys_of_runs_classifyAll hclassified List.nodup_nil

theorem sleeps_of_runs_detect
    {result : Except Failure (OrderedMap ResourceRef MigrationStatus)}
    (hrun : (detect path refs).Runs before events result after) :
    sleeps events = [] := by
  obtain ⟨_, ⟨_, _, rfl, _⟩ | ⟨_, _, rfl, _⟩⟩ := runs_detect_iff.mp hrun
  · rfl
  · rfl

/-- A detection that leaves nothing pending has an answer that says so. -/
theorem settles_of_runs_detect
    (hrun : (detect path refs).Runs before events (.ok found) after)
    (hsettled : anyPending found = false) :
    ∃ answer, exchanges events = [⟨assistanceRequest path, answer⟩] ∧ Settles answer refs := by
  obtain ⟨response, body, reported, hexchange, hok, hbody, hindices, hclassified⟩ :=
    exists_answer_of_runs_detect hrun
  refine ⟨.ok response, hexchange, fun ref hmem => ?_⟩
  obtain ⟨status, hstatus, hlookup⟩ := hclassified ref hmem
  have hclass : Classifies (.ok response) ref status :=
    ⟨response, body, reported, rfl, hok, hbody, hindices, hstatus⟩
  have hdone : status.isPending = false :=
    anyPending_eq_false_iff.mp hsettled _ (OrderedMap.mem_of_lookup_eq_some hlookup)
  rcases MigrationStatus.isPending_eq_false_iff.mp hdone with rfl | rfl
  · exact Or.inl hclass
  · exact Or.inr hclass

/-- A wait that ends normally ends with an answer that leaves nothing pending. -/
theorem settles_of_runs_awaitMigrated
    {harness : Harness} {interval timeout : Float}
    (hrun : (awaitMigrated harness refs interval timeout).Runs before events (.ok found) after) :
    ∃ front answer,
      exchanges events = front ++ [⟨assistanceRequest harness.assistancePath, answer⟩] ∧
      Settles answer refs := by
  obtain ⟨_, last, front, hdetected, hquiet, hexchanges⟩ :=
    exists_detection_of_runs_awaitMigrated hrun
  obtain ⟨answer, hexchange, hsettles⟩ := settles_of_runs_detect hdetected hquiet
  exact ⟨front, answer, by rw [hexchanges, hexchange], hsettles⟩

end Wait

/-! ## What follows on a detection -/

section Following

variable {conduct : Conduct} {path : String} {refs : List ResourceRef}

/-- The answer to a detection classifies the resources as the detection says. -/
theorem exists_classifies_of_runs_detect
    {before after : Session} {events : List Event}
    {statuses : OrderedMap ResourceRef MigrationStatus}
    (hrun : (detect path refs).Runs before events (.ok statuses) after) :
    ∃ answer,
      exchanges events = [⟨assistanceRequest path, answer⟩] ∧
      ∀ ref status, (ref, status) ∈ statuses → ref ∈ refs ∧ Classifies answer ref status := by
  obtain ⟨response, body, reported, hexchange, hok, hbody, hindices, hclassified⟩ :=
    exists_answer_of_runs_detect hrun
  refine ⟨.ok response, hexchange, fun ref status hmem => ?_⟩
  have hkey : ref ∈ refs := by
    have hmem : ref ∈ OrderedMap.keys statuses := List.mem_map_of_mem hmem
    rwa [keys_of_runs_detect hrun, List.mem_eraseDups] at hmem
  obtain ⟨found, hfound, hlookup⟩ := hclassified ref hkey
  cases hlookup.symm.trans (OrderedMap.lookup_of_mem (nodup_keys_of_runs_detect hrun) hmem)
  exact ⟨hkey, response, body, reported, rfl, hok, hbody, hindices, hfound⟩

/-- What follows on a detection may rely on its answer. -/
theorem conforms_detect_bind
    {β : Type} {next : OrderedMap ResourceRef MigrationStatus → Action β}
    (hassistance : conduct.permission.Allows [] (assistanceRequest path))
    (hnext : ∀ answer statuses,
      (∀ ref status, (ref, status) ∈ statuses → ref ∈ refs ∧ Classifies answer ref status) →
      Conforms (conduct.after [⟨assistanceRequest path, answer⟩]) (next statuses)) :
    Conforms conduct (detect path refs >>= next) := by
  refine conforms_bind_of_runs (conforms_detect hassistance) fun hdetected => ?_
  obtain ⟨answer, hanswer, hclassified⟩ := exists_classifies_of_runs_detect hdetected
  rw [hanswer]
  exact hnext answer _ hclassified

/-- A cycle triggers requested resources that the answer to its detection has found required. -/
theorem conforms_migratePending
    {harness : Harness} {interval timeout : Float}
    (hassistance : conduct.permission.Allows [] (assistanceRequest harness.assistancePath))
    (hupgrade : ∀ answer, ∀ ref ∈ refs, Classifies answer ref .required →
      conduct.permission.Allows [⟨assistanceRequest harness.assistancePath, answer⟩]
        (upgradeRequest harness.upgradePath ref))
    (hrule : conduct.outage ≠ .endsAtOnce) :
    Conforms conduct (migratePending harness refs interval timeout) := by
  refine conforms_detect_bind hassistance fun answer statuses hclassified => ?_
  refine conforms_bind (conforms_triggerRequired fun ref hmem => ?_) fun outcomes => ?_
  · obtain ⟨href, hclass⟩ := hclassified ref .required hmem
    exact hupgrade answer ref href hclass
  split
  · refine conforms_bind (conforms_awaitMigrated ?_ hrule) fun _ => conforms_pure _
    exact conduct.permission.mono (List.nil_subset _) hassistance
  · exact conforms_bind (conforms_note _ _ _) fun _ => conforms_pure _

end Following

/-! ## The whole cycle -/

section Cycle

variable {harness : Harness} {refs : List ResourceRef} {interval timeout : Float}
  {statuses : OrderedMap ResourceRef MigrationStatus}
  {outcomes : OrderedMap ResourceRef MigrationOutcome} {before after : Session}
  {events : List Event} {result : Except Failure (OrderedMap ResourceRef MigrationOutcome)}

/-- The part of the cycle that follows on the commands: it sends no command, and when it ends
normally it hands over their outcomes. -/
theorem exists_polled_of_runs_afterCommands
    (hrun : Action.Runs (do
        if anyPending statuses then
          let _ ← awaitMigrated harness refs interval timeout
        else
          note .info "migration_not_needed"
            [("resources", .json (.array (refs.map fun ref => .string ref.text)))]
        return outcomes) before events result after) :
    (∀ exchange ∈ exchanges events,
      exchange.request = assistanceRequest harness.assistancePath) ∧
    (∀ value, result = .ok value → value = outcomes) ∧
    (anyPending statuses = true → ∀ value, result = .ok value →
      ∃ front answer,
        exchanges events = front ++ [⟨assistanceRequest harness.assistancePath, answer⟩] ∧
        Settles answer refs) ∧
    (anyPending statuses = false →
      exchanges events = [] ∧ sleeps events = [] ∧ result = .ok outcomes) := by
  cases hpending : anyPending statuses with
  | false =>
      rw [hpending] at hrun
      obtain ⟨rest, rfl, hend⟩ := runs_note_bind_iff.mp hrun
      obtain ⟨rfl, rfl, _⟩ := runs_pure_iff.mp hend
      refine ⟨by simp, ?_, by simp, fun _ => ⟨rfl, rfl, rfl⟩⟩
      rintro value hvalue
      cases hvalue
      rfl
  | true =>
      rw [hpending] at hrun
      have hsends : Sends (· = assistanceRequest harness.assistancePath)
          (awaitMigrated harness refs interval timeout) :=
        Conforms.sends (conforms_awaitMigrated rfl nofun)
      rcases runs_bind_iff.mp hrun with
        ⟨found, middle, waiting, rest, rfl, hwaited, hend⟩ | ⟨failure, rfl, hfailed⟩
      · obtain ⟨rfl, rfl, _⟩ := runs_pure_iff.mp hend
        rw [List.append_nil]
        refine ⟨hsends hwaited, ?_, fun _ _ _ => settles_of_runs_awaitMigrated hwaited, by simp⟩
        rintro value hvalue
        cases hvalue
        rfl
      · exact ⟨hsends hfailed, by simp, by simp, by simp⟩

/-- What follows on a first detection that has returned the statuses. -/
structure Handled
    (harness : Harness)
    (refs : List ResourceRef)
    (statuses : OrderedMap ResourceRef MigrationStatus)
    (posts polled : List Exchange)
    (result : Except Failure (OrderedMap ResourceRef MigrationOutcome)) : Prop where
  /-- Nothing is posted while waiting. -/
  waits : ∀ exchange ∈ polled, exchange.request = assistanceRequest harness.assistancePath
  /-- What is required is posted once, in order of first appearance, up to the first failure. -/
  triggers :
    (∃ outcomes,
      TriggersAll harness.upgradePath
        (refs.eraseDups.filter fun ref => OrderedMap.lookup statuses ref = some .required)
        posts outcomes ∧
      ∀ value, result = .ok value → value = outcomes)
    ∨
    (∃ failure,
      StopsAt harness.upgradePath
        (refs.eraseDups.filter fun ref => OrderedMap.lookup statuses ref = some .required)
        posts failure ∧
      result = .error failure ∧
      polled = [])

theorem handled_of_runs_afterDetection
    (hkeys : OrderedMap.keys statuses = refs.eraseDups)
    (hnodup : (OrderedMap.keys statuses).Nodup)
    (hrun : Action.Runs (do
        let outcomes ← triggerRequired harness.upgradePath [] statuses
        if anyPending statuses then
          let _ ← awaitMigrated harness refs interval timeout
        else
          note .info "migration_not_needed"
            [("resources", .json (.array (refs.map fun ref => .string ref.text)))]
        return outcomes) before events result after) :
    ∃ posts polled,
      exchanges events = posts ++ polled ∧
      Handled harness refs statuses posts polled result ∧
      (anyPending statuses = true → ∀ value, result = .ok value →
        ∃ front answer,
          polled = front ++ [⟨assistanceRequest harness.assistancePath, answer⟩] ∧
          Settles answer refs) ∧
      (anyPending statuses = false →
        exchanges events = [] ∧ sleeps events = [] ∧ result = .ok []) := by
  have hrequired : requiredIn statuses =
      refs.eraseDups.filter fun ref => OrderedMap.lookup statuses ref = some .required := by
    rw [requiredIn_eq_filter hnodup, hkeys]
  have hnone : anyPending statuses = false → requiredIn statuses = [] := by
    intro hsettled
    refine List.map_eq_nil_iff.mpr (List.filter_eq_nil_iff.mpr fun entry hmem => ?_)
    have hdone := anyPending_eq_false_iff.mp hsettled entry hmem
    intro hentry
    rw [of_decide_eq_true hentry] at hdone
    cases hdone
  rcases runs_bind_iff.mp hrun with
    ⟨outcomes, middle, posting, waiting, rfl, htriggered, hwaited⟩ | ⟨failure, rfl, hfailed⟩
  · obtain ⟨hawake, ⟨all, hall, htriggers⟩ | ⟨_, hresult, _⟩⟩ :=
      exists_posts_of_runs_triggerRequired htriggered hnodup
    · cases hall
      obtain ⟨hwaits, hvalue, hsettles, hquiet⟩ := exists_polled_of_runs_afterCommands hwaited
      refine ⟨exchanges posting, exchanges waiting, exchanges_append _ _,
        ⟨hwaits, Or.inl ⟨all, hrequired ▸ htriggers, hvalue⟩⟩, hsettles, fun hsettled => ?_⟩
      obtain ⟨hexchanges, hsleeps, hresult⟩ := hquiet hsettled
      rw [hnone hsettled] at htriggers
      obtain ⟨hnoKeys, hposts⟩ := htriggers
      obtain rfl := List.map_eq_nil_iff.mp hnoKeys
      rw [exchanges_append, sleeps_append, hexchanges, hsleeps, hawake,
        List.forall₂_nil_left_iff.mp hposts]
      exact ⟨rfl, rfl, hresult⟩
    · cases hresult
  · obtain ⟨hawake, ⟨_, hresult, _⟩ | ⟨known, hresult, hstops⟩⟩ :=
      exists_posts_of_runs_triggerRequired hfailed hnodup
    · cases hresult
    · cases hresult
      refine ⟨exchanges events, [], (List.append_nil _).symm,
        ⟨by simp, Or.inr ⟨failure, hrequired ▸ hstops, rfl, rfl⟩⟩, by simp, fun hsettled => ?_⟩
      obtain ⟨_, _, _, _, _, hlist, _⟩ := hstops
      rw [hnone hsettled] at hlist
      exact absurd hlist.symm (by simp)

/-- **Every resource that needs migration is triggered once.**  The first detection decides which
resources are triggered.  Each of those that it finds required is posted once, in order of first
appearance, up to the first command that fails; nothing is posted for any other resource, nor while
waiting.  A normal return hands over the outcome of every command, and the last answer received
leaves nothing pending.  When the first detection finds nothing pending, it is the only request, and
nothing is waited for. -/
theorem triggers_once_of_runs_migratePending
    (harness : Harness)
    (refs : List ResourceRef)
    (interval timeout : Float)
    (before after : Session)
    (events : List Event)
    (result : Except Failure (OrderedMap ResourceRef MigrationOutcome))
    (hrun : (migratePending harness refs interval timeout).Runs before events result after) :
    ∃ detecting detected middle answer rest,
      (detect harness.assistancePath refs).Runs before detecting detected middle ∧
      exchanges detecting = [⟨assistanceRequest harness.assistancePath, answer⟩] ∧
      exchanges events = ⟨assistanceRequest harness.assistancePath, answer⟩ :: rest ∧
      (∀ failure, detected = .error failure → rest = [] ∧ result = .error failure) ∧
      ∀ statuses, detected = .ok statuses →
        (∃ posts polled,
          rest = posts ++ polled ∧ Handled harness refs statuses posts polled result) ∧
        (∀ value, result = .ok value →
          ∃ front last,
            exchanges events = front ++ [⟨assistanceRequest harness.assistancePath, last⟩] ∧
            Settles last refs) ∧
        (anyPending statuses = false →
          rest = [] ∧ sleeps events = [] ∧ result = .ok []) := by
  rcases runs_bind_iff.mp hrun with
    ⟨statuses, middle, detecting, others, rfl, hdetected, hrest⟩ | ⟨failure, rfl, hfailed⟩
  · obtain ⟨answer, hexchange⟩ := exists_exchange_of_runs_detect hdetected
    obtain ⟨posts, polled, hparts, hhandled, hsettles, hquiet⟩ :=
      handled_of_runs_afterDetection (keys_of_runs_detect hdetected)
        (nodup_keys_of_runs_detect hdetected) hrest
    have hexchanges : exchanges (detecting ++ others) =
        ⟨assistanceRequest harness.assistancePath, answer⟩ :: exchanges others := by
      rw [exchanges_append, hexchange, List.singleton_append]
    refine ⟨detecting, .ok statuses, middle, answer, exchanges others, hdetected, hexchange,
      hexchanges, by simp, ?_⟩
    rintro found hfound
    cases hfound
    refine ⟨⟨posts, polled, hparts, hhandled⟩, fun value hvalue => ?_, fun hsettled => ?_⟩
    · cases hpending : anyPending statuses with
      | true =>
          obtain ⟨front, last, rfl, hlast⟩ := hsettles hpending value hvalue
          refine ⟨⟨assistanceRequest harness.assistancePath, answer⟩ :: (posts ++ front), last, ?_,
            hlast⟩
          rw [hexchanges, hparts, List.cons_append, List.append_assoc]
      | false =>
          obtain ⟨last, hlast, hsettled⟩ := settles_of_runs_detect hdetected hpending
          refine ⟨[], last, ?_, hsettled⟩
          rw [exchanges_append, hlast, (hquiet hpending).1, List.append_nil, List.nil_append]
    · obtain ⟨hnothing, hawake, hresult⟩ := hquiet hsettled
      refine ⟨hnothing, ?_, hresult⟩
      rw [sleeps_append, sleeps_of_runs_detect hdetected, hawake, List.append_nil]
  · obtain ⟨answer, hexchange⟩ := exists_exchange_of_runs_detect hfailed
    refine ⟨events, .error failure, after, answer, [], hfailed, hexchange, hexchange, ?_, by simp⟩
    rintro known hknown
    cases hknown
    exact ⟨rfl, rfl⟩

/-- A service that reports a store as required, migrates three items of it, and then reports
nothing. -/
def migrating : Rehearsal where
  routes :=
    [("GET /_xpack/migration/assistance",
      [{ answer := .ok ⟨200, "\x7b\"indices\": \x7b\".watches\": " ++
          "\x7b\"action_required\": \"upgrade\"\x7d\x7d\x7d"⟩ },
       { answer := .ok ⟨200, "\x7b\"indices\": \x7b\x7d\x7d"⟩ }]),
     ("POST /_xpack/migration/upgrade/.watches",
      [{ answer := .ok ⟨200, "\x7b\"total\": 3\x7d"⟩ }])]

/-- A harness with the endpoints built in, whose polls are granted one attempt. -/
def standardHarness : Harness :=
  ⟨Capability.standard, .string Harness.standardAssistancePath, Harness.standardUpgradePath, 1⟩

def migratingStore : ResourceRef := ⟨".watches", "index"⟩

theorem triggers_once_in_migrating :
    ∃ events value statuses posts polled front last,
      (migratePending standardHarness [migratingStore] 1.0 30.0).Runs {} events (.ok value)
        { statuses := [(migratingStore, .completed)] } ∧
      Handled standardHarness [migratingStore] statuses posts polled (.ok value) ∧
      exchanges events = front ++ [⟨assistanceRequest Harness.standardAssistancePath, last⟩] ∧
      Settles last [migratingStore] := by
  obtain ⟨events, value, hrun⟩ : CanSucceed
      (migratePending standardHarness [migratingStore] 1.0 30.0) {}
      { statuses := [(migratingStore, .completed)] } :=
    canSucceed_of_rehearsal migrating (by decide +kernel)
  obtain ⟨detecting, detected, middle, answer, rest, hdetected, _, _, hfailed, hhandled⟩ :=
    triggers_once_of_runs_migratePending _ _ _ _ _ _ _ _ hrun
  cases detected with
  | error failure => cases (hfailed failure rfl).2
  | ok statuses =>
      obtain ⟨⟨posts, polled, _, hposts⟩, hlast, _⟩ := hhandled statuses rfl
      obtain ⟨front, last, hexchanges, hsettles⟩ := hlast value rfl
      exact ⟨events, value, statuses, posts, polled, front, last, hrun, hposts,
        hexchanges, hsettles⟩

end Cycle

end Migration
end RestartCheck
