import RestartCheck.Proofs.Watcher.Conduct
import RestartCheck.Proofs.Scenario.Answers

/-!
# The polls of the watcher scenario

One poll waits until every node reports a state of the watcher, another until a search has enough
hits.  Neither takes a missing value for the one that it waits for.

**Results.**
* `exists_states_iff`: the answers in which every node reports a state.
* `eq_ok_iff_of_runs_awaitState`: the wait for a state succeeds exactly when such an answer came.
* `shows_of_runs_awaitHits`: the answer behind a number of hits.
-/

namespace RestartCheck
namespace Watcher

open RestartCheck.Action Trace

/-! ## States of the nodes -/

/-- The answer lists at least one node, and every node reports the state. -/
def AllNodesIn
    (state : String)
    (body : Json.Members) : Prop :=
  ∃ nodes : List Json.Members,
    nodes ≠ [] ∧
    OrderedMap.lookup body "stats" = some (.array (nodes.map .object)) ∧
    ∀ node ∈ nodes, OrderedMap.lookup node "watcher_state" = some (.string state)

theorem member_eq_string_iff
    {node : Json} {name text : String} :
    node.member name = .ok (.string text) ↔
      ∃ members, node = .object members ∧ OrderedMap.lookup members name = some (.string text) := by
  unfold Json.member
  rw [Json.memberOr_eq_ok_iff]
  refine exists_congr fun members => and_congr_right fun _ => ?_
  exact Json.Members.getOrNull_eq_iff (by simp)

/-- Only nodes that are objects report a state. -/
theorem exists_mapM_member_iff
    {state : String} {items : List Json} :
    (∃ states,
        items.mapM (fun node => node.member "watcher_state") = .ok states ∧
        ∀ other ∈ states, other = Json.string state) ↔
      ∃ nodes : List Json.Members,
        items = nodes.map .object ∧
        ∀ node ∈ nodes, OrderedMap.lookup node "watcher_state" = some (.string state) := by
  simp only [Json.mapM_eq_ok_iff]
  induction items with
  | nil => simp
  | cons item rest ih =>
      constructor
      · rintro ⟨states, hstates, hall⟩
        cases hstates with
        | cons hfirst hrest =>
            rw [List.forall_mem_cons] at hall
            obtain ⟨rfl, hall⟩ := hall
            obtain ⟨members, rfl, hstate⟩ := member_eq_string_iff.mp hfirst
            obtain ⟨nodes, rfl, hnodes⟩ := ih.mp ⟨_, hrest, hall⟩
            exact ⟨members :: nodes, rfl, List.forall_mem_cons.mpr ⟨hstate, hnodes⟩⟩
      · rintro ⟨nodes, hitems, hnodes⟩
        cases nodes with
        | nil => cases hitems
        | cons members nodes =>
            rw [List.map_cons, List.cons.injEq] at hitems
            obtain ⟨rfl, rfl⟩ := hitems
            rw [List.forall_mem_cons] at hnodes
            obtain ⟨states, hstates, hall⟩ := ih.mpr ⟨nodes, rfl, hnodes.2⟩
            refine ⟨.string state :: states, List.Forall₂.cons ?_ hstates, ?_⟩
            · exact member_eq_string_iff.mpr ⟨members, rfl, hnodes.1⟩
            · exact List.forall_mem_cons.mpr ⟨rfl, hall⟩

theorem allInState_iff
    {state : String} {states : List Json} :
    allInState state states = true ↔
      states ≠ [] ∧ ∀ other ∈ states, other = Json.string state := by
  simp [allInState, Json.same_string_iff]

/-- The elements of anything but an array are texts, or there are none. -/
theorem presentElements_eq_objects_iff
    {data : Json} {nodes : List Json.Members}
    (hnodes : nodes ≠ []) :
    data.presentElements = .ok (nodes.map .object) ↔ data = .array (nodes.map .object) := by
  obtain ⟨first, rest, rfl⟩ := List.exists_cons_of_ne_nil hnodes
  unfold Json.presentElements
  split
  · next htruthy =>
      cases data with
      | array items => simp
      | object members =>
          simp only [Json.elements, Except.ok.injEq, reduceCtorEq, iff_false]
          cases members <;> simp
      | string text =>
          simp only [Json.elements, Except.ok.injEq, reduceCtorEq, iff_false]
          cases text.toList <;> simp
      | _ => simp [Json.elements]
  · next hempty =>
      simp only [Except.ok.injEq, List.map_cons, List.nil_eq, reduceCtorEq, false_iff]
      rintro rfl
      exact hempty rfl

theorem exists_states_iff
    {state : String} {body : Json.Members} :
    (∃ states, nodeStates body = .ok states ∧ allInState state states = true) ↔
      AllNodesIn state body := by
  unfold nodeStates
  simp only [Json.bind_eq_ok_iff, allInState_iff]
  constructor
  · rintro ⟨states, ⟨items, hitems, hstates⟩, hne, hall⟩
    obtain ⟨nodes, rfl, hnodes⟩ := exists_mapM_member_iff.mp ⟨states, hstates, hall⟩
    have hnonempty : nodes ≠ [] := by
      rintro rfl
      cases hstates
      exact hne rfl
    refine ⟨nodes, hnonempty, ?_, hnodes⟩
    rw [presentElements_eq_objects_iff hnonempty] at hitems
    exact (Json.Members.getOrNull_eq_iff (by simp)).mp hitems
  · rintro ⟨nodes, hnonempty, hstats, hnodes⟩
    obtain ⟨states, hstates, hall⟩ := exists_mapM_member_iff.mpr ⟨nodes, rfl, hnodes⟩
    refine ⟨states, ⟨_, ?_, hstates⟩, ?_, hall⟩
    · rw [presentElements_eq_objects_iff hnonempty]
      exact (Json.Members.getOrNull_eq_iff (by simp)).mpr hstats
    · rintro rfl
      rw [Json.mapM_eq_ok_iff, List.forall₂_nil_right_iff, List.map_eq_nil_iff] at hstates
      exact hnonempty hstates

/-! ## The wait for a state -/

/-- The request was answered with success and the state of every node. -/
def Reports
    (statsPath state : String) : Exchange → Prop :=
  Exchange.Accepted (statsRequest statsPath) (AllNodesIn state)

section State

variable {before after : Session} {events : List Event} {statsPath state : String}

/-- Judging a successful answer converges exactly when it has every node in the state. -/
theorem converged_iff_of_runs_judgeStates
    {response : Response} {outcome : Except Failure (PollOutcome (List Json))}
    (hrun : Action.Runs (do
        let states ← nodeStates (← response.object)
        if allInState state states then return PollOutcome.converged states
        else return .pending (.json (.array states))) before events outcome after) :
    events = [] ∧
    ((∃ states, outcome = .ok (.converged states)) ↔
      ∃ body, response.object = .ok body ∧ AllNodesIn state body) := by
  simp only [← exists_states_iff]
  rcases runs_liftM_bind_iff.mp hrun with
    ⟨body, hbody, hread⟩ | ⟨failure, hfailure, rfl, rfl, rfl⟩
  · rcases runs_liftM_bind_iff.mp hread with
      ⟨states, hstates, hjudged⟩ | ⟨failure, hfailure, rfl, rfl, rfl⟩
    · cases hall : allInState state states with
      | true =>
          rw [hall, if_pos rfl] at hjudged
          obtain ⟨rfl, rfl, rfl⟩ := runs_pure_iff.mp hjudged
          simp [hbody, hstates, hall]
      | false =>
          rw [hall, if_neg (by decide)] at hjudged
          obtain ⟨rfl, rfl, rfl⟩ := runs_pure_iff.mp hjudged
          simp [hbody, hstates, hall]
    · simp [hbody, hfailure]
  · simp [hfailure]

/-- One look at the nodes is one exchange, and it converges exactly when the answer has every node
in the state. -/
theorem exists_answer_of_runs_nodesInState
    {outcome : Except Failure (PollOutcome (List Json))}
    (hrun : (nodesInState statsPath state).Runs before events outcome after) :
    ∃ answer,
      exchanges events = [⟨statsRequest statsPath, answer⟩] ∧
      ((∃ states, outcome = .ok (.converged states)) ↔
        Reports statsPath state ⟨statsRequest statsPath, answer⟩) := by
  unfold nodesInState at hrun
  rcases runs_call_bind_iff.mp hrun with
    ⟨response, rest, rfl, hanswered⟩ | ⟨failure, rfl, rfl, rfl⟩
  · refine ⟨.ok response, ?_⟩
    rw [Reports, accepted_ok_iff]
    by_cases hbusy : response.status = 503
    · rw [if_pos hbusy] at hanswered
      obtain ⟨rfl, rfl, _⟩ := runs_pure_iff.mp hanswered
      refine ⟨rfl, ?_⟩
      simp [hbusy]
    · rw [if_neg hbusy] at hanswered
      cases hok : response.ok with
      | false =>
          rw [hok, if_pos (by decide)] at hanswered
          obtain ⟨rfl, rfl, _⟩ := runs_pure_iff.mp hanswered
          exact ⟨rfl, by simp⟩
      | true =>
          rw [hok, if_neg (by decide)] at hanswered
          obtain ⟨rfl, hconverged⟩ := converged_iff_of_runs_judgeStates hanswered
          exact ⟨rfl, by simpa using hconverged⟩
  · exact ⟨.error failure, rfl, by simp [Reports, not_accepted_error]⟩

/-- The poll for a state succeeds exactly when some answer had every node in it. -/
theorem eq_ok_iff_of_runs_pollState
    {patience : Nat} {interval timeout : Float} {description : String}
    {result : Except Failure (List Json)}
    (hrun : (awaitConvergence patience (nodesInState statsPath state) interval timeout
      description).Runs before events result after) :
    (∃ states, result = .ok states) ↔
      ∃ exchange ∈ exchanges events, Reports statsPath state exchange := by
  constructor
  · rintro ⟨states, rfl⟩
    obtain ⟨session, last, front, hlast, hexchanges⟩ :=
      Poll.exists_converged_of_runs_awaitConvergence hrun
    obtain ⟨answer, hanswer, hreports⟩ := exists_answer_of_runs_nodesInState hlast
    refine ⟨_, ?_, hreports.mp ⟨states, rfl⟩⟩
    rw [hexchanges, hanswer]
    simp
  · rintro ⟨exchange, hmem, hreports⟩
    cases result with
    | ok states => exact ⟨states, rfl⟩
    | error failure =>
        obtain ⟨session, trial, hattempt, htrial, hpending⟩ :=
          Poll.not_converged_of_runs_awaitConvergence hrun hmem
        obtain ⟨answer, hanswer, hconverged⟩ := exists_answer_of_runs_nodesInState hattempt
        rw [hanswer, List.mem_singleton] at htrial
        subst htrial
        obtain ⟨states, hstates⟩ := hconverged.mpr hreports
        exact absurd hstates (hpending states)

/-- The wait for a state succeeds exactly when some answer had every node in it. -/
theorem eq_ok_iff_of_runs_awaitState
    {settings : WatcherSettings} {ctx : ScenarioContext} {result : Except Failure Unit}
    (hrun : (awaitState settings ctx state).Runs before events result after) :
    result = .ok () ↔
      ∃ service statsPath,
        ctx.serving Capability.watcherService = .ok service ∧
        service.textAt "stats_path" = .ok statsPath ∧
        ∃ exchange ∈ exchanges events, Reports statsPath state exchange := by
  unfold awaitState at hrun
  rcases runs_liftM_bind_iff.mp hrun with
    ⟨service, hservice, hserved⟩ | ⟨failure, hfailure, rfl, rfl, rfl⟩
  · rcases runs_liftM_bind_iff.mp hserved with
      ⟨path, hpath, hpolled⟩ | ⟨failure, hfailure, rfl, rfl, rfl⟩
    · simp only [hservice, Except.ok.injEq, exists_eq_left', exists_and_left, hpath]
      rcases runs_bind_iff.mp hpolled with
        ⟨states, middle, front, back, rfl, hpoll, hend⟩ | ⟨failure, rfl, hpoll⟩
      · obtain ⟨rfl, rfl, rfl⟩ := runs_pure_iff.mp hend
        rw [List.append_nil]
        simpa using (eq_ok_iff_of_runs_pollState hpoll).mp ⟨states, rfl⟩
      · have hnone := mt (eq_ok_iff_of_runs_pollState hpoll).mpr (by simp)
        simpa using hnone
    · simp [hservice]
  · simp [hfailure]

end State

/-! ## Commands -/

/-- The answer acknowledges a command. -/
def Acknowledges (body : Json.Members) : Prop :=
  OrderedMap.lookup body "acknowledged" = some (.bool true)

/-- The command was answered with success and acknowledged. -/
def Acknowledged (path : String) : Exchange → Prop :=
  Exchange.Accepted (commandRequest path) Acknowledges

section Commands

variable {settings : WatcherSettings} {ctx : ScenarioContext} {path state : String}
  {before after : Session} {events : List Event}

/-- What follows on the answer to a command: the wait for the state if the answer acknowledges the
command, and else nothing. -/
theorem runs_acknowledge
    {response : Response} {attempted message : String} {result : Except Failure Unit}
    (hrun : Action.Runs (do
        let done ← requireOk response attempted
        check ((← done.object).getOrNull "acknowledged").isTrue message
        awaitState settings ctx state) before events result after) :
    (Acknowledged path ⟨commandRequest path, .ok response⟩ ∧
      (awaitState settings ctx state).Runs before events result after)
    ∨
    (¬Acknowledged path ⟨commandRequest path, .ok response⟩ ∧
      events = [] ∧ ∃ failure, result = .error failure) := by
  rw [Acknowledged, accepted_ok_iff]
  rcases runs_liftM_bind_iff.mp hrun with
    ⟨checked, hchecked, hread⟩ | ⟨failure, hfailure, rfl, rfl, rfl⟩
  · obtain ⟨hok, hsame⟩ := requireOk_eq_ok_iff.mp hchecked
    rw [hsame] at hread
    rcases runs_liftM_bind_iff.mp hread with
      ⟨body, hbody, hjudged⟩ | ⟨failure, hfailure, rfl, rfl, rfl⟩
    · simp only [hok, hbody, Except.ok.injEq, exists_eq_left', true_and, Acknowledges,
        ← Json.Members.isTrue_getOrNull_iff]
      rcases runs_liftM_bind_iff.mp hjudged with
        ⟨_, hcheck, hwait⟩ | ⟨failure, hcheck, rfl, rfl, rfl⟩
      · exact Or.inl ⟨check_eq_ok_iff.mp hcheck, hwait⟩
      · refine Or.inr ⟨fun hacknowledged => ?_, rfl, failure, rfl⟩
        cases hcheck.symm.trans (check_eq_ok_iff.mpr hacknowledged)
    · refine Or.inr ⟨?_, rfl, failure, rfl⟩
      simp [hfailure]
  · refine Or.inr ⟨fun haccepted => ?_, rfl, failure, rfl⟩
    cases hfailure.symm.trans (requireOk_eq_ok_iff.mpr ⟨haccepted.1, rfl⟩)

/-- A command succeeds exactly when it is acknowledged and some later answer has every node in the
state.  All that it exchanges after the command are looks at the nodes. -/
theorem exists_answer_of_runs_command
    {attempted message : String} {result : Except Failure Unit}
    (hrun : Action.Runs (do
        let response ← call (commandRequest path)
        let done ← requireOk response attempted
        check ((← done.object).getOrNull "acknowledged").isTrue message
        awaitState settings ctx state) before events result after) :
    ∃ answer polled,
      exchanges events = ⟨commandRequest path, answer⟩ :: polled ∧
      (∀ exchange ∈ polled, ∃ statsPath, exchange.request = statsRequest statsPath) ∧
      (result = .ok () ↔
        Acknowledged path ⟨commandRequest path, answer⟩ ∧
        ∃ service statsPath,
          ctx.serving Capability.watcherService = .ok service ∧
          service.textAt "stats_path" = .ok statsPath ∧
          ∃ exchange ∈ polled, Reports statsPath state exchange) := by
  rcases runs_call_bind_iff.mp hrun with
    ⟨response, rest, rfl, hanswered⟩ | ⟨failure, rfl, rfl, rfl⟩
  · refine ⟨.ok response, exchanges rest, rfl, ?_⟩
    rcases runs_acknowledge hanswered with
      ⟨hacknowledged, hwait⟩ | ⟨hignored, rfl, failure, rfl⟩
    · have hsends : Sends (fun request => ∃ statsPath, request = statsRequest statsPath)
          (awaitState settings ctx state) :=
        Conforms.sends (conforms_awaitState (fun _ _ => trivial) (fun path => ⟨path, rfl⟩) nofun)
      refine ⟨hsends hwait, ?_⟩
      rw [eq_ok_iff_of_runs_awaitState hwait]
      exact ⟨fun hstate => ⟨hacknowledged, hstate⟩, fun hboth => hboth.2⟩
    · exact ⟨by simp, by simp⟩
  · refine ⟨.error failure, [], rfl, by simp, ?_⟩
    simp [Acknowledged, not_accepted_error]

theorem exists_answer_of_runs_stop
    {service : Json.Members} {stopPath : String} {result : Except Failure Unit}
    (hpath : service.textAt "stop_path" = .ok stopPath)
    (hrun : (stop settings ctx service).Runs before events result after) :
    ∃ answer polled,
      exchanges events = ⟨commandRequest stopPath, answer⟩ :: polled ∧
      (∀ exchange ∈ polled, ∃ statsPath, exchange.request = statsRequest statsPath) ∧
      (result = .ok () ↔
        Acknowledged stopPath ⟨commandRequest stopPath, answer⟩ ∧
        ∃ service statsPath,
          ctx.serving Capability.watcherService = .ok service ∧
          service.textAt "stats_path" = .ok statsPath ∧
          ∃ exchange ∈ polled, Reports statsPath "stopped" exchange) := by
  unfold stop at hrun
  rw [hpath] at hrun
  rcases runs_liftM_bind_iff.mp hrun with ⟨path, hfound, hcommand⟩ | ⟨failure, hmissing, _⟩
  · cases hfound
    exact exists_answer_of_runs_command hcommand
  · cases hmissing

/-- The watcher is stopped after the checks however they end.  When they fail, theirs is the failure
reported. -/
theorem exists_stop_of_runs_checkAndStop
    {service : Json.Members} {result : Except Failure Unit}
    (hrun : (checkAndStop settings ctx service).Runs before events result after) :
    ∃ checked stopped middle checking stopping,
      exchanges events = exchanges checking ++ exchanges stopping ∧
      (checkRunning settings ctx service).Runs before checking checked middle ∧
      (stop settings ctx service).Runs middle stopping stopped after ∧
      result = checked.bind fun _ => stopped := by
  unfold checkAndStop at hrun
  obtain ⟨checked, middle, checking, back, rfl, hchecking, hstop⟩ := runs_attempt_bind_iff.mp hrun
  cases checked with
  | ok value =>
      exact ⟨.ok value, result, middle, checking, back, exchanges_append _ _, hchecking, hstop,
        rfl⟩
  | error failure =>
      obtain ⟨stopped, last, stopping, closing, rfl, hstopping, hclosing⟩ :=
        runs_attempt_bind_iff.mp hstop
      cases stopped with
      | ok value =>
          obtain ⟨rfl, rfl, rfl⟩ := runs_fail_iff.mp hclosing
          refine ⟨.error failure, .ok value, middle, checking, stopping, ?_, hchecking, hstopping,
            rfl⟩
          simp
      | error trouble =>
          obtain ⟨rest, rfl, hfailed⟩ := runs_note_bind_iff.mp hclosing
          obtain ⟨rfl, rfl, rfl⟩ := runs_fail_iff.mp hfailed
          refine ⟨.error failure, .error trouble, middle, checking, stopping, ?_, hchecking,
            hstopping, rfl⟩
          simp

end Commands

/-! ## The wait for hits -/

/-- The request that counts the documents of an index. -/
def searchRequest (index : String) : Request :=
  { method := "GET", path := "/" ++ index ++ "/_search", params := some [("size", .string "0")] }

/-- The answer gives an integer as the number of hits, plainly or as the value of an object. -/
def GivesHits
    (hits : Int)
    (body : Json.Members) : Prop :=
  (Json.object body).find "hits.total" = .ok (some (.int hits)) ∨
  ∃ total,
    (Json.object body).find "hits.total" = .ok (some (.object total)) ∧
    OrderedMap.lookup total "value" = some (.int hits)

/-- The answer gives enough hits. -/
def EnoughHits
    (minHits : Int)
    (body : Json.Members) : Prop :=
  ∃ hits, minHits ≤ hits ∧ GivesHits hits body

theorem givesHits_of_totalHits
    {body : Json.Members} {hits : Int}
    (hread : totalHits (.object body) = .ok hits) :
    GivesHits hits body := by
  unfold totalHits at hread
  obtain ⟨total, htotal, hnumber⟩ := Json.bind_eq_ok_iff.mp hread
  have hfind : (Json.object body).find "hits.total" = .ok (some total) := by
    unfold Json.extract at htotal
    split at htotal
    · next value hvalue =>
        cases htotal
        exact hvalue
    · cases htotal
    · cases htotal
  cases total with
  | int number =>
      cases hnumber
      exact Or.inl hfind
  | object members =>
      refine Or.inr ⟨members, hfind, ?_⟩
      simp only at hnumber
      split at hnumber
      · next number hvalue =>
          cases hnumber
          exact (Json.Members.getOrNull_eq_iff (by simp)).mp hvalue
      · cases hnumber
  | _ => cases hnumber

section Hits

variable {before after : Session} {events : List Event}

theorem shows_of_runs_enoughHits
    {index : String} {minHits hits : Int}
    (hrun : (enoughHits index minHits).Runs before events (.ok (.converged hits)) after) :
    Shows [Exchange.Accepted (searchRequest index) (EnoughHits minHits)] (exchanges events) := by
  unfold enoughHits at hrun
  obtain ⟨response, rest, rfl, hanswered⟩ := runs_call_bind_ok_iff.mp hrun
  split at hanswered
  · obtain ⟨_, hpending, _⟩ := runs_pure_iff.mp hanswered
    cases hpending
  split at hanswered
  · obtain ⟨_, hfatal, _⟩ := runs_pure_iff.mp hanswered
    cases hfatal
  next hok =>
    obtain ⟨body, hbody, hjudged⟩ := runs_liftM_bind_ok_iff.mp hanswered
    obtain ⟨_, houtcome, _⟩ := runs_liftM_iff.mp hjudged
    refine shows_accepted (by simpa using hok) hbody ?_
    unfold hitsOutcome at houtcome
    split at houtcome
    · next number hnumber =>
        refine ⟨number, ?_, givesHits_of_totalHits hnumber⟩
        by_contra hfew
        rw [if_neg hfew] at houtcome
        cases houtcome
    · cases houtcome
    · cases houtcome

theorem shows_of_runs_awaitHits
    {settings : WatcherSettings} {ctx : ScenarioContext} {index : String} {hits : Int}
    (hrun : (awaitHits settings ctx index).Runs before events (.ok hits) after) :
    Shows [Exchange.Accepted (searchRequest index) (EnoughHits settings.minHits)]
      (exchanges events) := by
  unfold awaitHits at hrun
  split at hrun
  · obtain ⟨_, hfailed, _⟩ := runs_fail_iff.mp hrun
    cases hfailed
  · obtain ⟨session, last, front, hlast, hexchanges⟩ :=
      Poll.exists_converged_of_runs_awaitConvergence hrun
    rw [hexchanges]
    exact (shows_of_runs_enoughHits hlast).of_suffix

end Hits

end Watcher
end RestartCheck
