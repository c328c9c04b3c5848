import RestartCheck.Proofs.Migration.Conduct

/-!
# What a detection establishes

A detection is one exchange.  When it succeeds the answer described resources, and every requested
resource has the status that its entry in the answer stands for.

**Results.**
* `runs_advance_iff`: a status is remembered unless it is behind the one remembered before.
* `lookup_of_runs_classifyAll`: every requested resource is classified by its own entry.
* `exists_answer_of_runs_detect`: the exchange of a detection that succeeds.
* `runs_settled_iff`: a trial of the wait is one detection.
-/

namespace RestartCheck
namespace Migration

open RestartCheck.Action Trace

section Advance

variable {before after : Session} {events : List Event} {ref : ResourceRef}
  {status : MigrationStatus}

/-- The failure of a resource whose status goes back. -/
def regression
    (ref : ResourceRef)
    (previous status : MigrationStatus) : Failure :=
  .fatal ("migration status of " ++ ref.text ++ " regressed from " ++ previous.text ++ " to "
    ++ status.text) .null

/-- The memory in which the status of a resource has been written. -/
def remember
    (session : Session)
    (ref : ResourceRef)
    (status : MigrationStatus) : Session :=
  { session with statuses := OrderedMap.put session.statuses ref status }

/-- The status is behind the one that is remembered. -/
def IsBehind
    (session : Session)
    (ref : ResourceRef)
    (previous status : MigrationStatus) : Prop :=
  OrderedMap.lookup session.statuses ref = some previous ∧ status.rank < previous.rank

theorem runs_advance_iff
    {result : Except Failure Unit} :
    (advance ref status).Runs before events result after ↔
      events = [] ∧
      ((∃ previous,
          IsBehind before ref previous status ∧
          result = .error (regression ref previous status) ∧
          after = before)
        ∨
        ((∀ previous, ¬IsBehind before ref previous status) ∧
          result = .ok () ∧
          after = remember before ref status)) := by
  unfold advance
  rw [runs_get_bind_iff]
  cases hlookup : OrderedMap.lookup before.statuses ref with
  | none =>
      simp only [runs_modify_iff]
      simp [IsBehind, hlookup, remember]
  | some previous =>
      simp only
      by_cases hbehind : status.rank < previous.rank
      · rw [if_pos hbehind, runs_fail_bind_iff]
        refine and_congr_right fun _ => ?_
        constructor
        · rintro ⟨rfl, rfl⟩
          exact Or.inl ⟨previous, ⟨hlookup, hbehind⟩, rfl, rfl⟩
        · rintro (⟨known, ⟨hknown, _⟩, hend⟩ | ⟨hahead, _⟩)
          · cases hlookup.symm.trans hknown
            exact hend
          · exact absurd ⟨hlookup, hbehind⟩ (hahead previous)
      · rw [if_neg hbehind, runs_modify_iff]
        refine and_congr_right fun _ => ?_
        constructor
        · intro hend
          refine Or.inr ⟨?_, hend⟩
          rintro known ⟨hknown, hrank⟩
          cases hlookup.symm.trans hknown
          exact hbehind hrank
        · rintro (⟨known, ⟨hknown, hrank⟩, _⟩ | ⟨_, hend⟩)
          · cases hlookup.symm.trans hknown
            exact absurd hrank hbehind
          · exact hend

end Advance

section Detection

variable {before after : Session} {events : List Event}

/-- Every resource has the status that its entry stands for, be it classified now or before. -/
theorem lookup_of_runs_classifyAll
    {reported : Json.Members} {done statuses : OrderedMap ResourceRef MigrationStatus}
    {refs : List ResourceRef}
    (hrun : (classifyAll reported done refs).Runs before events (.ok statuses) after)
    {ref : ResourceRef}
    (href : ref ∈ refs ∨
      ∃ status,
        classify ref (OrderedMap.lookup reported ref.name) = .ok status ∧
        OrderedMap.lookup done ref = some status) :
    ∃ status,
      classify ref (OrderedMap.lookup reported ref.name) = .ok status ∧
      OrderedMap.lookup statuses ref = some status := by
  induction refs generalizing before events done with
  | nil =>
      obtain ⟨_, hstatuses, _⟩ := runs_pure_iff.mp hrun
      cases hstatuses
      rcases href with hmem | hdone
      · cases hmem
      · exact hdone
  | cons first rest ih =>
      obtain ⟨status, hclass, hrun⟩ := runs_liftM_bind_ok_iff.mp hrun
      obtain ⟨_, middle, front, back, _, _, hrest⟩ := runs_bind_ok_iff.mp hrun
      refine ih hrest ?_
      by_cases hsame : ref = first
      · subst hsame
        exact Or.inr ⟨status, hclass, OrderedMap.lookup_put_self _ _ _⟩
      · rcases href with hmem | ⟨known, hknown, hdone⟩
        · exact Or.inl ((List.mem_cons.mp hmem).resolve_left hsame)
        · refine Or.inr ⟨known, hknown, ?_⟩
          rw [OrderedMap.lookup_put_of_ne _ _ hsame]
          exact hdone

theorem reportedIn_eq_ok_iff
    {response : Response} {reported : Json.Members} :
    reportedIn response = .ok reported ↔
      response.ok = true ∧
      ∃ body,
        response.object = .ok body ∧
        OrderedMap.lookup body "indices" = some (.object reported) := by
  unfold reportedIn
  by_cases hbusy : response.status = 503
  · have hok : response.ok = false := by
      simp [Response.ok, hbusy]
    simp [hbusy, hok]
  · rw [if_neg hbusy]
    cases hok : response.ok with
    | false => simp
    | true =>
        rw [if_neg (by decide)]
        cases hobject : response.object with
        | error failure => simp [Except.bind]
        | ok body =>
            simp only [Except.bind, reportedOf, true_and, Except.ok.injEq, exists_eq_left']
            split
            · next members hindices => simp [hindices]
            · next hindices =>
                simp only [reduceCtorEq, false_iff]
                exact hindices _

/-- A detection that succeeds is one exchange, whose answer classifies every requested resource. -/
theorem exists_answer_of_runs_detect
    {path : String} {refs : List ResourceRef}
    {statuses : OrderedMap ResourceRef MigrationStatus}
    (hrun : (detect path refs).Runs before events (.ok statuses) after) :
    ∃ response body reported,
      exchanges events = [⟨assistanceRequest path, .ok response⟩] ∧
      response.ok = true ∧
      response.object = .ok body ∧
      OrderedMap.lookup body "indices" = some (.object reported) ∧
      ∀ ref ∈ refs, ∃ status,
        classify ref (OrderedMap.lookup reported ref.name) = .ok status ∧
        OrderedMap.lookup statuses ref = some status := by
  unfold detect at hrun
  obtain ⟨response, rest, rfl, hanswered⟩ := runs_call_bind_ok_iff.mp hrun
  obtain ⟨reported, hreported, hnoted⟩ := runs_liftM_bind_ok_iff.mp hanswered
  obtain ⟨rest, rfl, hclassified⟩ := runs_note_bind_iff.mp hnoted
  obtain ⟨hok, body, hbody, hindices⟩ := reportedIn_eq_ok_iff.mp hreported
  have hnothing : Sends (fun _ => False) (classifyAll reported [] refs) :=
    (conforms_classifyAll reported [] refs).sends
  have hsilent : exchanges rest = [] :=
    List.eq_nil_iff_forall_not_mem.mpr (hnothing hclassified)
  refine ⟨response, body, reported, ?_, hok, hbody, hindices, ?_⟩
  · rw [exchanges_call_cons, exchanges_noted_cons, hsilent]
    rfl
  · intro ref hmem
    exact lookup_of_runs_classifyAll hclassified (Or.inl hmem)

end Detection

/-! ## One trial of the wait -/

section Trial

variable {path : String} {refs : List ResourceRef}
  {found : OrderedMap ResourceRef MigrationStatus} {before after : Session}
  {events : List Event}
  {outcome : Except Failure (PollOutcome (OrderedMap ResourceRef MigrationStatus))}

/-- What a detection means for the wait, be it successful or not. -/
def settledEnd :
    Except Failure (OrderedMap ResourceRef MigrationStatus) →
      Except Failure (PollOutcome (OrderedMap ResourceRef MigrationStatus))
  | .ok statuses => .ok (settledOutcome statuses)
  | .error (.unavailable message _) => .ok (.pending (.json (.string message)))
  | .error failure => .error failure

theorem settled_eq
    (path : String)
    (refs : List ResourceRef) :
    settled path refs =
      attempt (detect path refs) >>= fun result => Action.ofExcept (settledEnd result) := by
  unfold settled
  congr 1
  funext result
  cases result with
  | ok statuses => rfl
  | error failure => cases failure <;> rfl

/-- A trial is one detection. -/
theorem runs_settled_iff :
    (settled path refs).Runs before events outcome after ↔
      ∃ result,
        (detect path refs).Runs before events result after ∧
        outcome = settledEnd result := by
  rw [settled_eq, runs_attempt_bind_iff]
  simp only [runs_ofExcept_iff]
  constructor
  · rintro ⟨result, middle, front, back, rfl, hrun, rfl, houtcome, rfl⟩
    rw [List.append_nil]
    exact ⟨result, hrun, houtcome⟩
  · rintro ⟨result, hrun, houtcome⟩
    exact ⟨result, after, events, [], (List.append_nil _).symm, hrun, rfl, houtcome, rfl⟩

/-- A trial converges when its detection finds nothing pending. -/
theorem runs_settled_converged_iff :
    (settled path refs).Runs before events (.ok (.converged found)) after ↔
      (detect path refs).Runs before events (.ok found) after ∧ anyPending found = false := by
  rw [runs_settled_iff]
  constructor
  · rintro ⟨result, hdetected, hconverged⟩
    cases result with
    | ok statuses =>
        cases hpending : anyPending statuses with
        | true => simp [settledEnd, settledOutcome, hpending] at hconverged
        | false =>
            simp only [settledEnd, settledOutcome, hpending] at hconverged
            cases hconverged
            exact ⟨hdetected, hpending⟩
    | error failure => cases failure <;> cases hconverged
  · rintro ⟨hdetected, hquiet⟩
    exact ⟨.ok found, hdetected, by simp [settledEnd, settledOutcome, hquiet]⟩

/-- The last detection of a wait that ends normally. -/
theorem exists_detection_of_runs_awaitMigrated
    {harness : Harness} {interval timeout : Float}
    (hrun : (awaitMigrated harness refs interval timeout).Runs before events (.ok found) after) :
    ∃ session last front,
      (detect harness.assistancePath refs).Runs session last (.ok found) after ∧
      anyPending found = false ∧
      exchanges events = front ++ exchanges last := by
  obtain ⟨session, last, front, hlast, hexchanges⟩ :=
    Poll.exists_converged_of_runs_awaitConvergence hrun
  obtain ⟨hdetected, hquiet⟩ := runs_settled_converged_iff.mp hlast
  exact ⟨session, last, front, hdetected, hquiet, hexchanges⟩

end Trial

end Migration
end RestartCheck
