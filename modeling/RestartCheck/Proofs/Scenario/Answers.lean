import RestartCheck.Health
import RestartCheck.Scenario.Basic
import RestartCheck.Proofs.Effect.Permits
import RestartCheck.Proofs.Json.Reading

/-!
# Checked answers

What a half of a scenario has seen when it passes a check: the answer reported success, its body was
a JSON object, and the condition of the check held of it.

**Results.**
* `runs_checked_ok_iff`, `runs_check_bind_ok_iff`: passing a check.
* `Health.shows_of_runs_await`: passing the wait for the health of the cluster.
-/

namespace RestartCheck

open RestartCheck.Action Trace

/-- The request was sent, and was answered with success and a JSON object of which something
holds. -/
def Exchange.Accepted
    (request : Request)
    (holds : Json.Members → Prop)
    (exchange : Exchange) : Prop :=
  exchange.request = request ∧
  ∃ response body,
    exchange.answer = .ok response ∧
    response.ok = true ∧
    response.object = .ok body ∧
    holds body

theorem accepted_ok_iff
    {request : Request} {response : Response} {holds : Json.Members → Prop} :
    Exchange.Accepted request holds ⟨request, .ok response⟩ ↔
      response.ok = true ∧ ∃ body, response.object = .ok body ∧ holds body := by
  constructor
  · rintro ⟨_, _, body, hanswer, hok, hbody, hholds⟩
    cases hanswer
    exact ⟨hok, body, hbody, hholds⟩
  · rintro ⟨hok, body, hbody, hholds⟩
    exact ⟨rfl, response, body, rfl, hok, hbody, hholds⟩

theorem not_accepted_error
    {request sent : Request} {failure : Failure} {holds : Json.Members → Prop} :
    ¬Exchange.Accepted request holds ⟨sent, .error failure⟩ := by
  rintro ⟨_, _, _, hanswer, _⟩
  cases hanswer

theorem shows_accepted
    {request : Request} {response : Response} {body : Json.Members} {holds : Json.Members → Prop}
    {rest : List Exchange}
    (hok : response.ok = true)
    (hbody : response.object = .ok body)
    (hholds : holds body) :
    Shows [Exchange.Accepted request holds] (⟨request, .ok response⟩ :: rest) :=
  shows_singleton_iff.mpr
    ⟨_, List.mem_cons_self, accepted_ok_iff.mpr ⟨hok, body, hbody, hholds⟩⟩

section Checks

variable {α : Type} {before after : Session} {events : List Event} {value : α}

theorem runs_check_bind_ok_iff
    {condition : Bool} {message : String} {next : Unit → Action α} :
    Action.Runs (liftM (check condition message) >>= next) before events (.ok value) after ↔
      condition = true ∧ (next ()).Runs before events (.ok value) after := by
  rw [runs_liftM_bind_ok_iff]
  constructor
  · rintro ⟨⟨⟩, hcheck, hrun⟩
    exact ⟨check_eq_ok_iff.mp hcheck, hrun⟩
  · rintro ⟨hcondition, hrun⟩
    exact ⟨(), check_eq_ok_iff.mpr hcondition, hrun⟩

theorem runs_check_ok_iff
    {condition : Bool} {message : String} :
    Action.Runs (liftM (check condition message) : Action Unit) before events (.ok ()) after ↔
      events = [] ∧ condition = true ∧ after = before := by
  rw [runs_liftM_iff, eq_comm (a := Except.ok ()), check_eq_ok_iff]

/-- Checks that are made one after the other. -/
theorem runs_each_check_ok_iff
    {ι : Type} {items : List ι} {condition : ι → Bool} {message : ι → String} :
    (each items fun item => Action.ofExcept (check (condition item) (message item))).Runs before
        events (.ok ()) after ↔
      events = [] ∧ (∀ item ∈ items, condition item = true) ∧ after = before := by
  induction items generalizing before events with
  | nil =>
      simp only [List.not_mem_nil, false_implies, implies_true, true_and]
      exact runs_pure_iff.trans (by simp)
  | cons item rest ih =>
      refine runs_check_bind_ok_iff.trans ?_
      rw [ih, List.forall_mem_cons]
      constructor
      · rintro ⟨hfirst, rfl, hrest, rfl⟩
        exact ⟨rfl, ⟨hfirst, hrest⟩, rfl⟩
      · rintro ⟨rfl, ⟨hfirst, hrest⟩, rfl⟩
        exact ⟨hfirst, rfl, hrest, rfl⟩

/-- A request whose answer must report success and hold a JSON object. -/
theorem runs_checked_ok_iff
    {request : Request} {attempted : String} {next : Json.Members → Action α} :
    Action.Runs (do
        let response ← call request
        let response ← requireOk response attempted
        let body ← response.object
        next body) before events (.ok value) after ↔
      ∃ response body rest,
        events = ⟨.call request, .ok response⟩ :: rest ∧
        response.ok = true ∧
        response.object = .ok body ∧
        (next body).Runs before rest (.ok value) after := by
  rw [runs_call_bind_ok_iff]
  constructor
  · rintro ⟨response, rest, rfl, hanswered⟩
    obtain ⟨checked, hchecked, hread⟩ := runs_liftM_bind_ok_iff.mp hanswered
    obtain ⟨hok, hsame⟩ := requireOk_eq_ok_iff.mp hchecked
    rw [hsame] at hread
    obtain ⟨body, hbody, hnext⟩ := runs_liftM_bind_ok_iff.mp hread
    exact ⟨response, body, rest, rfl, hok, hbody, hnext⟩
  · rintro ⟨response, body, rest, rfl, hok, hbody, hrun⟩
    refine ⟨response, rest, rfl, runs_liftM_bind_ok_iff.mpr ⟨response, ?_, ?_⟩⟩
    · exact requireOk_eq_ok_iff.mpr ⟨hok, rfl⟩
    · exact runs_liftM_bind_ok_iff.mpr ⟨body, hbody, hrun⟩

/-- Parts that each show a stage show the stages one after the other. -/
theorem shows_of_runs_each
    {ι : Type} {items : List ι} {action : ι → Action Unit} {stage : ι → Exchange → Prop}
    (hitem : ∀ item ∈ items, ∀ {before after : Session} {events : List Event},
      (action item).Runs before events (.ok ()) after → Shows [stage item] (exchanges events))
    (hrun : (each items action).Runs before events (.ok ()) after) :
    Shows (items.map stage) (exchanges events) := by
  induction items generalizing before events with
  | nil => trivial
  | cons item rest ih =>
      obtain ⟨_, middle, front, back, rfl, hfirst, hrest⟩ := runs_bind_ok_iff.mp hrun
      rw [exchanges_append]
      have hshows : Shows [stage item] (exchanges front) :=
        hitem item List.mem_cons_self hfirst
      exact hshows.append
        (ih (fun other hother => hitem other (List.mem_cons_of_mem _ hother)) hrest)

end Checks

namespace Health

/-- The request that waits for the health of resources. -/
def healthRequest
    (resources : String)
    (status timeout : String)
    (waits : Json.Members) : Request :=
  { method := "GET", path := "/_cluster/health/" ++ resources
    params := some (OrderedMap.update
      [("wait_for_status", .string status), ("timeout", .string timeout)] waits) }

/-- The health of the resources was asked for, and the answer says that the wait did not time
out. -/
def Reached
    (resources : String)
    (exchange : Exchange) : Prop :=
  (∃ status timeout waits, exchange.request = healthRequest resources status timeout waits) ∧
  ∃ response body,
    exchange.answer = .ok response ∧
    response.object = .ok body ∧
    OrderedMap.lookup body "timed_out" = some (.bool false)

section Await

variable {table : CapabilityTable} {oldVersion : Version} {resources status timeout : String}
  {before after : Session} {events : List Event}

theorem shows_of_runs_await
    {body : Json.Members}
    (hresources : resources ≠ "")
    (hrun : (await table oldVersion (some resources) status timeout).Runs before events (.ok body)
      after) :
    Shows [Reached resources] (exchanges events) := by
  have hpath : nonempty? (some resources) = some resources := by
    simp [nonempty?, hresources]
  unfold await at hrun
  obtain ⟨waits, _, hrequest⟩ := runs_liftM_bind_ok_iff.mp hrun
  simp only [hpath] at hrequest
  obtain ⟨response, rest, rfl, hstatus⟩ := runs_call_bind_ok_iff.mp hrequest
  obtain ⟨_, hanswered⟩ := runs_guard_ok_iff.mp hstatus
  obtain ⟨found, hfound, hreached⟩ := runs_liftM_bind_ok_iff.mp hanswered
  obtain ⟨hfalse, _⟩ := runs_guard_ok_iff.mp hreached
  refine shows_singleton_iff.mpr ⟨⟨_, .ok response⟩, List.mem_cons_self, ?_, ?_⟩
  · exact ⟨status, timeout, waits, rfl⟩
  · exact ⟨response, found, rfl, hfound, isReached_iff.mp (by simpa using hfalse)⟩

/-- A wait that succeeds is one exchange. -/
theorem exists_exchange_of_runs_await
    {named : Option String} {body : Json.Members}
    (hrun : (await table oldVersion named status timeout).Runs before events (.ok body) after) :
    ∃ exchange, exchanges events = [exchange] ∧ exchange.request.IsRead := by
  unfold await at hrun
  obtain ⟨waits, _, hrequest⟩ := runs_liftM_bind_ok_iff.mp hrun
  obtain ⟨response, rest, rfl, hstatus⟩ := runs_call_bind_ok_iff.mp hrequest
  obtain ⟨_, hanswered⟩ := runs_guard_ok_iff.mp hstatus
  obtain ⟨found, _, hreached⟩ := runs_liftM_bind_ok_iff.mp hanswered
  obtain ⟨_, hnoted⟩ := runs_guard_ok_iff.mp hreached
  rcases runs_noteShowing_bind_iff.mp hnoted with ⟨_, rest, rfl, hend⟩ | ⟨_, _, _, hresult, _⟩
  · obtain ⟨rfl, _⟩ := runs_pure_iff.mp hend
    exact ⟨_, rfl, rfl⟩
  · cases hresult

end Await

end Health
end RestartCheck
