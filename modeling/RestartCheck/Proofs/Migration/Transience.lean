import RestartCheck.Proofs.Json.Nesting
import RestartCheck.Proofs.Migration.Memory
import RestartCheck.Proofs.Migration.Triggering
import RestartCheck.Proofs.Poll.Telling

/-!
# Transient answers do not change the end of a wait

Some answers say nothing about the migration: a 503, or none at all because the service is out of
reach.  A wait looks again after such an answer.  Two waits whose answers differ by such answers
only come to the same end, unless they run out of time.

**Algorithm.**  A detection is determined by the statuses remembered and by the answer to it.  A
transient answer leaves the memory as it was, so its trial can be left out.  What is left of the two
waits are trials with the same answers in the same order, from the same memory.  They agree trial by
trial, up to the first whose outcome is final, and that is the last trial of both.

**Results.**
* `eq_of_runs_detect`: the same answer has the same result.
* `consecutive_steady`: the trials with transient answers can be left out.
* `eq_of_consecutive`: two waits agree up to the first outcome that is final.
* `same_end_of_steady_eq`: two waits whose answers differ by transient ones only.
-/

namespace RestartCheck

/-! ## Polls that end in time -/

namespace Poll

section InTime

variable {α : Type} {description : String} {timeout : Float} {attempts : Nat}
  {outcome : Except Failure (PollOutcome α)}

/-- The failures of a poll that has used up its time. -/
def IsOutOfTime : Failure → Prop
  | .timedOut _ _ _ => True
  | .unreachable _ => True
  | _ => False

def EndsInTime (result : Except Failure α) : Prop :=
  ∀ failure, result = .error failure → ¬IsOutOfTime failure

/-- A trial that can tell what it has seen and leaves the poll waiting only ends it when its time is
used up. -/
theorem not_isTransient_of_endsInTime
    (htellable : (seenIn outcome).IsTellable)
    (hintime : EndsInTime (decided description timeout attempts outcome)) :
    isTransient outcome = false := by
  rcases outcome_cases outcome with ⟨seen, rfl⟩ | ⟨cause, rfl⟩ | ⟨hfinal, _⟩
  · obtain ⟨message, hmessage⟩ :=
      exists_timedOut_of_isTellable (α := α) description timeout attempts htellable
    exact absurd trivial (hintime _ hmessage)
  · exact absurd trivial (hintime _ rfl)
  · exact hfinal

end InTime

end Poll

namespace Migration

open RestartCheck.Action Trace

/-! ## The same answer has the same result -/

section TwoDetections

variable {path : String} {refs : List ResourceRef} {reported : Json.Members}
  {done : OrderedMap ResourceRef MigrationStatus} {before after before' after' : Session}
  {events events' : List Event}
  {result result' : Except Failure (OrderedMap ResourceRef MigrationStatus)}
  {ref : ResourceRef}

theorem FailsWith.eq
    {failure other : Failure}
    (hfails : FailsWith reported before ref failure)
    (hother : FailsWith reported before ref other) :
    failure = other := by
  rcases hfails with herror | ⟨status, previous, hstatus, ⟨hlookup, _⟩, rfl⟩ <;>
    rcases hother with herror' | ⟨status', previous', hstatus', ⟨hlookup', _⟩, rfl⟩
  · cases herror.symm.trans herror'
    rfl
  · cases herror.symm.trans hstatus'
  · cases hstatus.symm.trans herror'
  · cases hstatus.symm.trans hstatus'
    cases hlookup.symm.trans hlookup'
    rfl

/-- Two classifications of one answer that start from the same statuses come to the same end. -/
theorem eq_of_runs_classifyAll
    (hrun : (classifyAll reported done refs).Runs before events result after)
    (hother : (classifyAll reported done refs).Runs before' events' result' after')
    (hsame : before.statuses = before'.statuses) :
    result = result' ∧ after.statuses = after'.statuses := by
  induction refs generalizing done before before' with
  | nil =>
      obtain ⟨_, rfl, rfl⟩ := runs_pure_iff.mp hrun
      obtain ⟨_, rfl, rfl⟩ := runs_pure_iff.mp hother
      exact ⟨rfl, hsame⟩
  | cons ref rest ih =>
      have hbehind : ∀ {previous status},
          IsBehind before' ref previous status ↔ IsBehind before ref previous status := by
        intro previous status
        rw [IsBehind, IsBehind, hsame]
      have hotherCases := runs_classifyAll_cons_iff.mp hother
      simp only [FailsWith, hbehind] at hotherCases
      rcases runs_classifyAll_cons_iff.mp hrun with
        ⟨failure, hfails, _, rfl, rfl⟩ | ⟨status, hclass, hahead, hrest⟩ <;>
        rcases hotherCases with
          ⟨failure', hfails', _, rfl, rfl⟩ | ⟨status', hclass', hahead', hrest'⟩
      · rw [FailsWith.eq hfails hfails']
        exact ⟨rfl, hsame⟩
      · exact absurd ⟨status', classify_eq_ok_iff.mp hclass', hahead'⟩
          (not_isReadable_of_fails hfails)
      · exact absurd ⟨status, classify_eq_ok_iff.mp hclass, hahead⟩
          (not_isReadable_of_fails hfails')
      · cases hclass.symm.trans hclass'
        exact ih hrest hrest' (congrArg (OrderedMap.put · ref status) hsame)

/-- What a detection comes to, given the answer to it. -/
theorem end_of_runs_detect
    {answer : Except Failure Response}
    (hrun : (detect path refs).Runs before events result after)
    (hanswer : exchanges events = [⟨assistanceRequest path, answer⟩]) :
    (∃ failure,
      answer.bind reportedIn = .error failure ∧
      result = .error failure ∧ after = before)
    ∨
    (∃ reported,
      answer.bind reportedIn = .ok reported ∧
      (classifyAll reported [] refs).Runs before [] result after) := by
  obtain ⟨known, ⟨failure, hreported, rfl, hend⟩ | ⟨reported, hreported, rfl, hclassified⟩⟩ :=
    runs_detect_iff.mp hrun
  · have hknown : [(⟨assistanceRequest path, known⟩ : Exchange)] = [⟨_, answer⟩] := hanswer
    cases hknown
    exact Or.inl ⟨failure, hreported, hend⟩
  · have hknown : [(⟨assistanceRequest path, known⟩ : Exchange)] = [⟨_, answer⟩] := hanswer
    cases hknown
    exact Or.inr ⟨reported, hreported, hclassified⟩

/-- Two detections with the same answer that start from the same statuses come to the same end. -/
theorem eq_of_runs_detect
    {answer : Except Failure Response}
    (hrun : (detect path refs).Runs before events result after)
    (hother : (detect path refs).Runs before' events' result' after')
    (hsame : before.statuses = before'.statuses)
    (hanswer : exchanges events = [⟨assistanceRequest path, answer⟩])
    (hanswer' : exchanges events' = [⟨assistanceRequest path, answer⟩]) :
    result = result' ∧ after.statuses = after'.statuses := by
  rcases end_of_runs_detect hrun hanswer with
    ⟨failure, hreported, rfl, rfl⟩ | ⟨reported, hreported, hclassified⟩ <;>
    rcases end_of_runs_detect hother hanswer' with
      ⟨failure', hreported', rfl, rfl⟩ | ⟨reported', hreported', hclassified'⟩
  · cases hreported.symm.trans hreported'
    exact ⟨rfl, hsame⟩
  · cases hreported.symm.trans hreported'
  · cases hreported.symm.trans hreported'
  · cases hreported.symm.trans hreported'
    exact eq_of_runs_classifyAll hclassified hclassified' hsame

end TwoDetections

/-! ## Trials of a wait -/

section Trials

variable {path : String} {refs : List ResourceRef} {before after : Session}
  {events : List Event} {answer : Except Failure Response}
  {outcome : Except Failure (PollOutcome (OrderedMap ResourceRef MigrationStatus))}

/-- The answers of the service, in order. -/
def answersOf (events : List Event) : List (Except Failure Response) :=
  (exchanges events).map Exchange.answer

/-- The answer is a 503, or the service was out of reach. -/
def isTransientAnswer : Except Failure Response → Bool
  | .ok response => response.status == 503
  | .error (.unreachable _) => true
  | .error _ => false

/-- The answers without the transient ones. -/
def steady (answers : List (Except Failure Response)) : List (Except Failure Response) :=
  answers.filter fun answer => !isTransientAnswer answer

theorem exists_answer_of_runs_settled
    (hrun : (settled path refs).Runs before events outcome after) :
    ∃ answer, exchanges events = [⟨assistanceRequest path, answer⟩] := by
  obtain ⟨result, hdetected, _⟩ := runs_settled_iff.mp hrun
  exact exists_exchange_of_runs_detect hdetected

/-- Nothing is found in a transient answer, and the wait goes on. -/
theorem settledEnd_of_isTransientAnswer
    (htransient : isTransientAnswer answer = true) :
    ∃ failure,
      answer.bind reportedIn = .error failure ∧
      Poll.isTransient (settledEnd (.error failure)) = true := by
  cases answer with
  | ok response =>
      have hbusy : response.status = 503 := eq_of_beq htransient
      exact ⟨_, if_pos hbusy, rfl⟩
  | error failure =>
      cases failure with
      | unreachable cause => exact ⟨_, rfl, rfl⟩
      | _ => cases htransient

/-- A trial with a transient answer leaves the memory as it was, and the wait goes on. -/
theorem keeps_of_isTransientAnswer
    (hrun : (settled path refs).Runs before events outcome after)
    (hanswer : exchanges events = [⟨assistanceRequest path, answer⟩])
    (htransient : isTransientAnswer answer = true) :
    Poll.isTransient outcome = true ∧ after = before := by
  obtain ⟨result, hdetected, rfl⟩ := runs_settled_iff.mp hrun
  obtain ⟨failure, hnothing, hwaits⟩ := settledEnd_of_isTransientAnswer htransient
  rcases end_of_runs_detect hdetected hanswer with
    ⟨known, hknown, rfl, rfl⟩ | ⟨reported, hreported, _⟩
  · cases hnothing.symm.trans hknown
    exact ⟨hwaits, rfl⟩
  · cases hnothing.symm.trans hreported

end Trials

/-! ## Leaving trials out -/

/-- A trial of a wait. -/
abbrev Look := Poll.Trial (OrderedMap ResourceRef MigrationStatus)

/-- The answers to the trials, in order. -/
def answersIn (trials : List Look) : List (Except Failure Response) :=
  trials.flatMap fun trial => answersOf trial.events

/-- The answer to the trial is not transient. -/
def isSteady (trial : Look) : Bool :=
  (answersOf trial.events).any fun answer => !isTransientAnswer answer

section TwoWaits

variable {path : String} {refs : List ResourceRef} {before after before' after' : Session}
  {trials rest rest' earlier earlier' : List Look} {trial trial' last last' : Look}
  {script : List (Except Failure Response)}

theorem map_answer_exchangesOf
    (trials : List Look) :
    (Poll.exchangesOf trials).map Exchange.answer = answersIn trials :=
  List.map_flatMap

/-- The trials whose answers are not transient make up a wait of their own. -/
theorem consecutive_steady
    (hrun : Poll.Consecutive (settled path refs) before trials after) :
    Poll.Consecutive (settled path refs) before (trials.filter isSteady) after ∧
    answersIn (trials.filter isSteady) = steady (answersIn trials) := by
  induction trials generalizing before with
  | nil => exact ⟨hrun, rfl⟩
  | cons trial rest ih =>
      obtain ⟨hfirst, hrest⟩ := hrun
      obtain ⟨answer, hexchange⟩ := exists_answer_of_runs_settled hfirst
      have hanswer : answersOf trial.events = [answer] := congrArg (List.map _) hexchange
      obtain ⟨hothers, hanswers⟩ := ih hrest
      have hcons : ∀ others,
          answersIn (trial :: others) = answer :: answersIn others := by
        intro others
        rw [answersIn, List.flatMap_cons, hanswer]
        rfl
      cases htransient : isTransientAnswer answer with
      | true =>
          have hdropped : isSteady trial = false := by
            simp [isSteady, hanswer, htransient]
          rw [(keeps_of_isTransientAnswer hfirst hexchange htransient).2] at hothers
          rw [List.filter_cons_of_neg (by simp [hdropped]), hcons, steady,
            List.filter_cons_of_neg (by simp [htransient])]
          exact ⟨hothers, hanswers⟩
      | false =>
          have hkept : isSteady trial = true := by
            simp [isSteady, hanswer, htransient]
          rw [List.filter_cons_of_pos hkept, hcons, hcons, steady,
            List.filter_cons_of_pos (by simp [htransient]), hanswers]
          exact ⟨⟨hfirst, hothers⟩, rfl⟩

/-- The first trials of two waits with the same answers come to the same end. -/
theorem eq_of_first_trial
    (hrun : (settled path refs).Runs before trial.events trial.outcome trial.after)
    (hother : (settled path refs).Runs before' trial'.events trial'.outcome trial'.after)
    (hsame : before.statuses = before'.statuses)
    (hanswers : answersIn (trial :: rest) <+: script)
    (hanswers' : answersIn (trial' :: rest') <+: script) :
    trial.outcome = trial'.outcome ∧
    trial.after.statuses = trial'.after.statuses ∧
    ∃ later, answersIn rest <+: later ∧ answersIn rest' <+: later := by
  obtain ⟨answer, hexchange⟩ := exists_answer_of_runs_settled hrun
  obtain ⟨answer', hexchange'⟩ := exists_answer_of_runs_settled hother
  obtain ⟨back, rfl⟩ := hanswers
  have hprefix : answer' :: answersIn rest' <+: answer :: (answersIn rest ++ back) := by
    simpa [answersIn, answersOf, hexchange, hexchange'] using hanswers'
  obtain ⟨rfl, hlater⟩ := List.cons_prefix_cons.mp hprefix
  obtain ⟨result, hdetected, houtcome⟩ := runs_settled_iff.mp hrun
  obtain ⟨result', hdetected', houtcome'⟩ := runs_settled_iff.mp hother
  obtain ⟨rfl, hstatuses⟩ := eq_of_runs_detect hdetected hdetected' hsame hexchange hexchange'
  exact ⟨houtcome.trans houtcome'.symm, hstatuses, _, List.prefix_append _ back, hlater⟩

/-- Two waits with the same answers agree up to the first outcome that is final. -/
theorem eq_of_consecutive
    (hrun : Poll.Consecutive (settled path refs) before (earlier ++ [last]) after)
    (hother : Poll.Consecutive (settled path refs) before' (earlier' ++ [last']) after')
    (hsame : before.statuses = before'.statuses)
    (hwaits : ∀ trial ∈ earlier, Poll.isTransient trial.outcome = true)
    (hwaits' : ∀ trial ∈ earlier', Poll.isTransient trial.outcome = true)
    (hfinal : Poll.isTransient last.outcome = false)
    (hfinal' : Poll.isTransient last'.outcome = false)
    (hanswers : answersIn (earlier ++ [last]) <+: script)
    (hanswers' : answersIn (earlier' ++ [last']) <+: script) :
    last.outcome = last'.outcome ∧ after.statuses = after'.statuses := by
  -- Both waits lose their first trial at a time, so their memories and what is left of the script
  -- vary.
  induction earlier generalizing earlier' before before' script with
  | nil =>
      obtain ⟨hlast, rfl⟩ := hrun
      cases earlier' with
      | nil =>
          obtain ⟨hlast', rfl⟩ := hother
          obtain ⟨houtcome, hstatuses, _⟩ :=
            eq_of_first_trial hlast hlast' hsame hanswers hanswers'
          exact ⟨houtcome, hstatuses⟩
      | cons trial' rest' =>
          obtain ⟨houtcome, _⟩ := eq_of_first_trial hlast hother.1 hsame hanswers hanswers'
          rw [houtcome, hwaits' trial' List.mem_cons_self] at hfinal
          cases hfinal
  | cons trial rest ih =>
      rw [List.forall_mem_cons] at hwaits
      cases earlier' with
      | nil =>
          obtain ⟨houtcome, _⟩ := eq_of_first_trial hrun.1 hother.1 hsame hanswers hanswers'
          rw [← houtcome, hwaits.1] at hfinal'
          cases hfinal'
      | cons trial' rest' =>
          rw [List.forall_mem_cons] at hwaits'
          obtain ⟨_, hstatuses, later, hlater, hlater'⟩ :=
            eq_of_first_trial hrun.1 hother.1 hsame hanswers hanswers'
          exact ih hrun.2 hother.2 hstatuses hwaits.2 hwaits'.2 hlater hlater'

end TwoWaits

/-! ## The whole wait -/

section Wait

variable {harness : Harness} {refs : List ResourceRef} {interval timeout : Float}
  {path : String} {before after : Session} {events : List Event}
  {result : Except Failure (OrderedMap ResourceRef MigrationStatus)} {failure : Failure}
  {outcome : Except Failure (PollOutcome (OrderedMap ResourceRef MigrationStatus))}

/-- What the wait comes to when a trial with the outcome ends it in time. -/
inductive Ends :
    Except Failure (PollOutcome (OrderedMap ResourceRef MigrationStatus)) →
      Except Failure (OrderedMap ResourceRef MigrationStatus) → Prop
  | converged (statuses : OrderedMap ResourceRef MigrationStatus) :
      Ends (.ok (.converged statuses)) (.ok statuses)
  | failed (failure : Failure) :
      Ends (.error failure) (.error failure)

theorem Ends.unique
    {result' : Except Failure (OrderedMap ResourceRef MigrationStatus)}
    (hends : Ends outcome result)
    (hends' : Ends outcome result') :
    result = result' := by
  cases hends with
  | converged statuses =>
      cases hends'
      rfl
  | failed failure =>
      cases hends'
      rfl

/-- A trial sees the states of resources, or a text. -/
theorem isTellable_settledEnd
    (found : Except Failure (OrderedMap ResourceRef MigrationStatus)) :
    (Poll.seenIn (settledEnd found)).IsTellable := by
  cases found with
  | ok statuses =>
      rw [settledEnd, settledOutcome]
      split
      · refine Observed.isTellable_texts
          (OrderedMap.forall_mem_ofPairs (P := fun value : Json => ∃ text, value = .string text) ?_)
        rintro pair hmem
        obtain ⟨entry, _, rfl⟩ := List.mem_map.mp hmem
        exact ⟨_, rfl⟩
      · exact Observed.isTellable_null
  | error failure =>
      cases failure with
      | unavailable message details => exact Observed.isTellable_text message
      | unreachable cause => exact Observed.isTellable_text cause
      | _ => exact Observed.isTellable_null

theorem ends_of_final
    {found : Except Failure (OrderedMap ResourceRef MigrationStatus)}
    (hfinal : Poll.isTransient (settledEnd found) = false)
    (description : String)
    (attempts : Nat) :
    Ends (settledEnd found) (Poll.decided description timeout attempts (settledEnd found)) := by
  cases found with
  | ok statuses =>
      rw [settledEnd, settledOutcome] at hfinal ⊢
      split at hfinal
      · cases hfinal
      · next hquiet =>
          rw [if_neg hquiet]
          exact .converged statuses
  | error failure =>
      cases failure with
      | unavailable message details => cases hfinal
      | unreachable cause => cases hfinal
      | _ => exact .failed _

/-- An answer that describes no resources is fatal, unless it cannot be read at all, or there is
none, or the service is unavailable. -/
theorem cause_of_reportedIn
    {answer : Except Failure Response}
    (hfailed : answer.bind reportedIn = .error failure)
    (hends : settledEnd (.error failure) = .error failure) :
    IsFatal failure ∨ answer = .error failure ∨
      failure = .defect .nestingTooDeep ∧
        ∃ response, answer = .ok response ∧ response.IsTooDeep := by
  cases answer with
  | error known =>
      cases hfailed
      exact Or.inr (Or.inl rfl)
  | ok response =>
      change reportedIn response = .error failure at hfailed
      unfold reportedIn at hfailed
      split at hfailed
      · cases hfailed
        cases hends
      · split at hfailed
        · cases hfailed
          exact Or.inl ⟨_, _, rfl⟩
        · next hok =>
            have hok : response.ok = true := by simpa using hok
            cases hobject : response.object with
            | error known =>
                rw [hobject] at hfailed
                cases hfailed
                rcases Response.fatal_or_tooDeep_of_object hobject with hfatal | ⟨hdeep, rfl⟩
                · exact Or.inl hfatal
                · exact Or.inr (Or.inr ⟨rfl, response, rfl, hok, hdeep⟩)
            | ok body =>
                rw [hobject] at hfailed
                change reportedOf body = .error failure at hfailed
                unfold reportedOf at hfailed
                split at hfailed
                · cases hfailed
                · cases hfailed
                  exact Or.inl ⟨_, _, rfl⟩

/-- Why a trial fails. -/
theorem cause_of_runs_settled
    (hrun : (settled path refs).Runs before events (.error failure) after) :
    IsFatal failure ∨ .error failure ∈ answersOf events ∨
      failure = .defect .nestingTooDeep ∧
        ∃ response, .ok response ∈ answersOf events ∧ response.IsTooDeep := by
  obtain ⟨answer, hexchange⟩ := exists_answer_of_runs_settled hrun
  have hanswers : answersOf events = [answer] := congrArg (List.map _) hexchange
  obtain ⟨result, hdetected, hends⟩ := runs_settled_iff.mp hrun
  obtain rfl : result = .error failure := by
    cases result with
    | ok statuses => cases hends
    | error known => cases known <;> cases hends <;> rfl
  rcases end_of_runs_detect hdetected hexchange with
    ⟨known, hknown, hsame, _⟩ | ⟨reported, _, hclassified⟩
  · cases hsame
    rw [hanswers]
    simpa [eq_comm] using cause_of_reportedIn hknown hends.symm
  · exact Or.inl (isFatal_of_runs_classifyAll hclassified)

theorem reportedIn_of_isTooDeep
    {response : Response}
    (hdeep : response.IsTooDeep) :
    reportedIn response = .error (.defect .nestingTooDeep) := by
  obtain ⟨hok, hdecode⟩ := hdeep
  have hbusy : response.status ≠ 503 := by
    have hrange := Response.ok_iff.mp hok
    omega
  rw [reportedIn, if_neg hbusy, hok, Response.object_of_tooDeep hdecode]
  rfl

/-- An answer that is nested too deeply breaks the trial off. -/
theorem outcome_of_isTooDeep
    {response : Response}
    (hrun : (settled path refs).Runs before events outcome after)
    (hmem : .ok response ∈ answersOf events)
    (hdeep : response.IsTooDeep) :
    outcome = .error (.defect .nestingTooDeep) := by
  obtain ⟨answer, hexchange⟩ := exists_answer_of_runs_settled hrun
  have hanswers : answersOf events = [answer] := congrArg (List.map _) hexchange
  rw [hanswers, List.mem_singleton] at hmem
  subst hmem
  have hreported := reportedIn_of_isTooDeep hdeep
  obtain ⟨result, hdetected, rfl⟩ := runs_settled_iff.mp hrun
  rcases end_of_runs_detect hdetected hexchange with
    ⟨known, hknown, rfl, _⟩ | ⟨reported, hknown, _⟩
  · cases hreported.symm.trans hknown
    rfl
  · cases hreported.symm.trans hknown

theorem isSteady_of_final
    {trial : Look}
    (hrun : (settled path refs).Runs before trial.events trial.outcome trial.after)
    (hfinal : Poll.isTransient trial.outcome = false) :
    isSteady trial = true := by
  obtain ⟨answer, hexchange⟩ := exists_answer_of_runs_settled hrun
  cases htransient : isTransientAnswer answer with
  | true =>
      rw [(keeps_of_isTransientAnswer hrun hexchange htransient).1] at hfinal
      cases hfinal
  | false => simp [isSteady, answersOf, hexchange, htransient]

/-- A wait that ends in time, without the trials whose answers are transient. -/
theorem exists_steady_of_runs_awaitMigrated
    (husable : ¬Poll.IsUnusable interval timeout)
    (hrun : (awaitMigrated harness refs interval timeout).Runs before events result after)
    (hintime : Poll.EndsInTime result) :
    ∃ (earlier : List Look) (last : Look),
      Poll.Consecutive (settled harness.assistancePath refs) before (earlier ++ [last]) after ∧
      (∀ trial ∈ earlier, Poll.isTransient trial.outcome = true) ∧
      Poll.isTransient last.outcome = false ∧
      answersIn (earlier ++ [last]) = steady (answersOf events) ∧
      Ends last.outcome result := by
  obtain ⟨start, earlier, last, hconsecutive, hwaits, hexchanges, rfl⟩ :=
    Poll.exists_trials_of_usable husable hrun
  obtain ⟨session, hlast⟩ := hconsecutive.exists_runs (by simp : last ∈ earlier ++ [last])
  obtain ⟨found, _, houtcome⟩ := runs_settled_iff.mp hlast
  have htellable : (Poll.seenIn last.outcome).IsTellable := houtcome ▸ isTellable_settledEnd found
  rw [Poll.Trial.comesTo_of_isTellable htellable] at hintime ⊢
  have hfinal := Poll.not_isTransient_of_endsInTime htellable hintime
  have hanswers : answersOf events = answersIn (earlier ++ [last]) := by
    rw [answersOf, hexchanges, map_answer_exchangesOf]
  have hkept : (earlier ++ [last]).filter isSteady = earlier.filter isSteady ++ [last] := by
    rw [List.filter_append, List.filter_singleton, isSteady_of_final hlast hfinal]
    rfl
  obtain ⟨hsteady, hscript⟩ := consecutive_steady hconsecutive
  rw [hkept] at hsteady hscript
  refine ⟨earlier.filter isSteady, last, hsteady,
    fun trial hmem => hwaits trial (List.mem_of_mem_filter hmem), hfinal, ?_, ?_⟩
  · rw [hscript, hanswers]
  · rw [houtcome] at hfinal ⊢
    exact ends_of_final hfinal _ _

theorem comesTo_of_ends
    {last : Look} {start : Float}
    (hends : Ends last.outcome result)
    (hfinal : Poll.isTransient last.outcome = false)
    (description : String)
    (attempts : Nat) :
    last.comesTo description timeout start attempts = result := by
  rw [Poll.Trial.comesTo_of_told (Poll.Trial.refusal?_of_final hfinal _ _)]
  generalize last.outcome = outcome at hends hfinal
  cases hends with
  | converged statuses => rfl
  | failed failure =>
      cases failure with
      | unreachable cause => cases hfinal
      | _ => rfl

/-- Every course of trials that fits into the attempts granted is one of a wait. -/
theorem exists_runs_awaitMigrated
    (harness : Harness)
    (refs : List ResourceRef)
    (start : Float)
    (husable : ¬Poll.IsUnusable interval timeout)
    (earlier : List Look)
    (last : Look)
    (hlength : earlier.length < harness.patience)
    (hconsecutive :
      Poll.Consecutive (settled harness.assistancePath refs) before (earlier ++ [last]) after)
    (hwaits : ∀ trial ∈ earlier, ¬trial.IsDecisive timeout start)
    (hfinal : Poll.isTransient last.outcome = false)
    (hends : Ends last.outcome result) :
    ∃ events,
      (awaitMigrated harness refs interval timeout).Runs before events result after ∧
      answersOf events = answersIn (earlier ++ [last]) := by
  refine ⟨_, (Poll.runs_awaitConvergence_of_usable husable).mpr ⟨start, earlier, last, hlength,
    hconsecutive, hwaits, Or.inl hfinal, rfl, (comesTo_of_ends hends hfinal _ _).symm⟩, ?_⟩
  rw [answersOf, Poll.exchanges_history, map_answer_exchangesOf]

/-- Why a wait fails that ends in time. -/
theorem cause_of_runs_awaitMigrated
    (husable : ¬Poll.IsUnusable interval timeout)
    (hrun : (awaitMigrated harness refs interval timeout).Runs before events (.error failure) after)
    (hintime : Poll.EndsInTime (.error failure : Except Failure
      (OrderedMap ResourceRef MigrationStatus))) :
    IsFatal failure ∨ .error failure ∈ answersOf events ∨
      failure = .defect .nestingTooDeep ∧
        ∃ response, .ok response ∈ answersOf events ∧ response.IsTooDeep := by
  obtain ⟨earlier, last, hconsecutive, _, _, hanswers, hends⟩ :=
    exists_steady_of_runs_awaitMigrated husable hrun hintime
  obtain ⟨session, hlast⟩ := hconsecutive.exists_runs (by simp : last ∈ earlier ++ [last])
  have hsubset : answersOf last.events ⊆ answersOf events := by
    intro answer hmem
    refine List.mem_of_mem_filter (p := fun answer => !isTransientAnswer answer) ?_
    rw [← steady, ← hanswers, answersIn, List.flatMap_append]
    simp [hmem]
  generalize last.outcome = outcome at hends hlast
  cases hends
  rcases cause_of_runs_settled hlast with hfatal | hcame | ⟨hcrash, response, hmem, hdeep⟩
  · exact Or.inl hfatal
  · exact Or.inr (Or.inl (hsubset hcame))
  · exact Or.inr (Or.inr ⟨hcrash, response, hsubset hmem, hdeep⟩)

/-- An answer that is nested too deeply breaks the wait off. -/
theorem result_of_isTooDeep
    {response : Response}
    (husable : ¬Poll.IsUnusable interval timeout)
    (hrun : (awaitMigrated harness refs interval timeout).Runs before events result after)
    (hmem : .ok response ∈ answersOf events)
    (hdeep : response.IsTooDeep) :
    result = .error (.defect .nestingTooDeep) := by
  obtain ⟨start, earlier, last, hconsecutive, hwaits, hexchanges, rfl⟩ :=
    Poll.exists_trials_of_usable husable hrun
  rw [answersOf, hexchanges, map_answer_exchangesOf] at hmem
  obtain ⟨trial, htrial, hmem⟩ := List.mem_flatMap.mp hmem
  obtain ⟨session, hattempt⟩ := hconsecutive.exists_runs htrial
  have hcrash := outcome_of_isTooDeep hattempt hmem hdeep
  rcases List.mem_append.mp htrial with hearlier | hlast
  · have hwaiting := hwaits trial hearlier
    rw [hcrash] at hwaiting
    cases hwaiting
  · obtain rfl := List.mem_singleton.mp hlast
    rw [Poll.Trial.comesTo_of_isTellable (by rw [hcrash]; exact Observed.isTellable_null), hcrash]
    rfl

end Wait

/-- **Transient answers do not change the end of a wait.**  Two waits for the same resources start
from the same statuses.  They are answered from scripts that differ by transient answers only: 503s,
and no answer because the service is out of reach.  When both end before their time is used up, they
end with the same statuses or with the same failure, and leave the same statuses remembered.

The failure is fatal, or it comes in place of an answer, except that a wait crashes on an answer
that is nested too deeply, and that a budget that is not positive is refused at the outset. -/
theorem same_end_of_steady_eq
    (harness : Harness)
    (refs : List ResourceRef)
    (interval timeout : Float)
    (before before' after after' : Session)
    (events events' : List Event)
    (result result' : Except Failure (OrderedMap ResourceRef MigrationStatus))
    (script script' : List (Except Failure Response))
    (hrun : (awaitMigrated harness refs interval timeout).Runs before events result after)
    (hrun' : (awaitMigrated harness refs interval timeout).Runs before' events' result' after')
    (hsame : before.statuses = before'.statuses)
    (hanswers : answersOf events <+: script)
    (hanswers' : answersOf events' <+: script')
    (hscripts : steady script = steady script')
    (hintime : Poll.EndsInTime result)
    (hintime' : Poll.EndsInTime result') :
    result = result' ∧
    after.statuses = after'.statuses ∧
    (Poll.IsUnusable interval timeout → result = .error Poll.unusable) ∧
    (¬Poll.IsUnusable interval timeout →
      (∀ response,
        .ok response ∈ answersOf events → response.IsTooDeep →
        result = .error (.defect .nestingTooDeep)) ∧
      ∀ failure, result = .error failure →
        IsFatal failure
        ∨
        .error failure ∈ answersOf events
        ∨
        failure = .defect .nestingTooDeep ∧
          ∃ response, .ok response ∈ answersOf events ∧ response.IsTooDeep) := by
  by_cases hunusable : Poll.IsUnusable interval timeout
  · obtain ⟨_, rfl, rfl⟩ := (Poll.runs_awaitConvergence_of_unusable hunusable).mp hrun
    obtain ⟨_, rfl, rfl⟩ := (Poll.runs_awaitConvergence_of_unusable hunusable).mp hrun'
    exact ⟨rfl, hsame, fun _ => rfl, fun husable => absurd hunusable husable⟩
  · obtain ⟨earlier, last, hconsecutive, hwaits, hfinal, hsteady, hends⟩ :=
      exists_steady_of_runs_awaitMigrated hunusable hrun hintime
    obtain ⟨earlier', last', hconsecutive', hwaits', hfinal', hsteady', hends'⟩ :=
      exists_steady_of_runs_awaitMigrated hunusable hrun' hintime'
    have hprefix : answersIn (earlier ++ [last]) <+: steady script := by
      rw [hsteady]
      exact hanswers.filter _
    have hprefix' : answersIn (earlier' ++ [last']) <+: steady script := by
      rw [hsteady', hscripts]
      exact hanswers'.filter _
    obtain ⟨houtcome, hstatuses⟩ := eq_of_consecutive hconsecutive hconsecutive' hsame hwaits
      hwaits' hfinal hfinal' hprefix hprefix'
    rw [houtcome] at hends
    refine ⟨hends.unique hends', hstatuses, fun hrefused => absurd hrefused hunusable, fun _ =>
      ⟨fun response hmem hdeep => result_of_isTooDeep hunusable hrun hmem hdeep, ?_⟩⟩
    rintro failure rfl
    exact cause_of_runs_awaitMigrated hunusable hrun hintime

/-! ## A wait that is interrupted -/

section Interrupted

/-- An answer that reports the store in progress. -/
def progressAnswer : Response :=
  ⟨200, "\x7b\"indices\": \x7b\".watches\": \x7b\"action_required\": \"in_progress\"\x7d\x7d\x7d"⟩

/-- An answer that reports no store any more. -/
def emptyAnswer : Response :=
  ⟨200, "\x7b\"indices\": \x7b\x7d\x7d"⟩

def direct : Rehearsal where
  routes :=
    [("GET /_xpack/migration/assistance",
      [{ answer := .ok progressAnswer }, { answer := .ok emptyAnswer }])]

/-- The same, interrupted by a 503 and by a refused connection. -/
def interrupted : Rehearsal where
  routes :=
    [("GET /_xpack/migration/assistance",
      [{ answer := .ok progressAnswer }, { answer := .ok ⟨503, ""⟩ },
       { answer := .error (.unreachable "connection refused") }, { answer := .ok emptyAnswer }])]

/-- A harness whose polls are granted four attempts. -/
def patientHarness : Harness :=
  { standardHarness with patience := 4 }

/-- The answers that are not transient are the two of the direct rehearsal, and there are `count`
answers in all. -/
def isAnswered
    (count : Nat)
    (events : List Event) : Bool :=
  match steady (answersOf events) with
  | [.ok first, .ok second] =>
      first == progressAnswer && second == emptyAnswer && (answersOf events).length == count
  | _ => false

theorem steady_of_isAnswered
    {count : Nat} {events : List Event}
    (hanswered : isAnswered count events = true) :
    steady (answersOf events) = [.ok progressAnswer, .ok emptyAnswer] ∧
    (answersOf events).length = count := by
  unfold isAnswered at hanswered
  split at hanswered
  · next first second hsteady =>
      simp only [Bool.and_eq_true, beq_iff_eq] at hanswered
      obtain ⟨⟨rfl, rfl⟩, hcount⟩ := hanswered
      exact ⟨hsteady, hcount⟩
  · cases hanswered

theorem same_end_in_interrupted :
    ∃ events events' statuses after after',
      (awaitMigrated patientHarness [migratingStore] 1.0 30.0).Runs {} events (.ok statuses) after ∧
      (awaitMigrated patientHarness [migratingStore] 1.0 30.0).Runs {} events' (.ok statuses)
        after' ∧
      (answersOf events).length = 2 ∧
      (answersOf events').length = 4 ∧
      steady (answersOf events) = steady (answersOf events') ∧
      after.statuses = after'.statuses := by
  obtain ⟨events, statuses, after, hrun, hanswered⟩ := exists_runs_of_succeedsWith direct {}
    (awaitMigrated patientHarness [migratingStore] 1.0 30.0)
    (fun events _ => isAnswered 2 events) rfl (by decide +kernel)
  obtain ⟨events', statuses', after', hrun', hanswered'⟩ := exists_runs_of_succeedsWith interrupted
    {} (awaitMigrated patientHarness [migratingStore] 1.0 30.0)
    (fun events _ => isAnswered 4 events) rfl (by decide +kernel)
  obtain ⟨hsteady, hcount⟩ := steady_of_isAnswered hanswered
  obtain ⟨hsteady', hcount'⟩ := steady_of_isAnswered hanswered'
  have hscripts := hsteady.trans hsteady'.symm
  obtain ⟨hresult, hstatuses, _⟩ := same_end_of_steady_eq _ _ _ _ _ _ _ _ _ _ _ _ _ _ hrun hrun'
    rfl List.prefix_rfl List.prefix_rfl hscripts (fun _ hfailed => by cases hfailed)
    (fun _ hfailed => by cases hfailed)
  cases hresult
  exact ⟨events, events', statuses, after, after', hrun, hrun', hcount, hcount', hscripts,
    hstatuses⟩

/-- A trial whose answer describes no resources. -/
theorem exists_runs_settled_of_error
    {failure : Failure}
    (path : String)
    (refs : List ResourceRef)
    (before : Session)
    (answer : Except Failure Response)
    (hnothing : answer.bind reportedIn = .error failure) :
    ∃ events,
      (settled path refs).Runs before events (settledEnd (.error failure)) before ∧
      answersOf events = [answer] :=
  ⟨_, runs_settled_iff.mpr ⟨_, runs_detect_iff.mpr
    ⟨answer, Or.inl ⟨failure, hnothing, rfl, rfl, rfl⟩⟩, rfl⟩, rfl⟩

/-- The answer is nested too deeply, once at the outset and once after a 503. -/
theorem crashes_on_deep_assistance :
    ∃ events events' after after',
      (awaitMigrated patientHarness [migratingStore] 1.0 30.0).Runs {} events
        (.error (.defect .nestingTooDeep)) after ∧
      (awaitMigrated patientHarness [migratingStore] 1.0 30.0).Runs {} events'
        (.error (.defect .nestingTooDeep)) after' ∧
      answersOf events = [.ok ⟨200, Json.deepText⟩] ∧
      answersOf events' = [.ok ⟨503, ""⟩, .ok ⟨200, Json.deepText⟩] ∧
      Poll.EndsInTime (.error (.defect .nestingTooDeep) : Except Failure
        (OrderedMap ResourceRef MigrationStatus)) ∧
      ¬IsFatal (.defect .nestingTooDeep) := by
  obtain ⟨response, hresponse, hdeep⟩ :
      ∃ response : Response, response = ⟨200, Json.deepText⟩ ∧ response.IsTooDeep :=
    ⟨_, rfl, Response.isTooDeep_deepText⟩
  rw [← hresponse]
  obtain ⟨busyEvents, hbusy, hbusyAnswer⟩ :=
    exists_runs_settled_of_error patientHarness.assistancePath [migratingStore] {} (.ok ⟨503, ""⟩)
      rfl
  obtain ⟨deepEvents, hcrash, hdeepAnswer⟩ :=
    exists_runs_settled_of_error patientHarness.assistancePath [migratingStore] {} (.ok response)
      (reportedIn_of_isTooDeep hdeep)
  have husable : ¬Poll.IsUnusable 1.0 30.0 := by
    decide +kernel
  let unavailable : Failure :=
    .unavailable "migration assistance is temporarily unavailable" (.string "")
  let busy : Look := ⟨busyEvents, settledEnd (.error unavailable), {}, 0.5⟩
  let deep : Look := ⟨deepEvents, .error (.defect .nestingTooDeep), {}, 0.0⟩
  have hwaits : ¬busy.IsDecisive 30.0 0.0 := by
    have htellable : (Poll.seenIn busy.outcome).IsTellable :=
      isTellable_settledEnd (.error unavailable)
    rw [Poll.Trial.isDecisive_iff_of_isTellable htellable]
    change ¬(true = false ∨ (30.0 : Float) ≤ 0.5 - 0.0)
    decide +kernel
  obtain ⟨events, hrun, hanswers⟩ := exists_runs_awaitMigrated patientHarness [migratingStore]
    0.0 husable [] deep (by decide) ⟨hcrash, rfl⟩ (List.forall_mem_nil _) rfl (.failed _)
  obtain ⟨events', hrun', hanswers'⟩ := exists_runs_awaitMigrated patientHarness [migratingStore]
    0.0 husable [busy] deep (by change 1 < 4; decide) ⟨hbusy, hcrash, rfl⟩
    (List.forall_mem_singleton.mpr hwaits) rfl (.failed _)
  refine ⟨events, events', {}, {}, hrun, hrun', ?_, ?_, ?_, ?_⟩
  · rw [hanswers]
    simp [answersIn, deep, hdeepAnswer]
  · rw [hanswers']
    simp [answersIn, busy, deep, hbusyAnswer, hdeepAnswer]
  · rintro failure ⟨⟩
    exact id
  · rintro ⟨message, details, hfatal⟩
    cases hfatal

end Interrupted

end Migration
end RestartCheck
