import RestartCheck.Proofs.Watcher.Evidence
import RestartCheck.Proofs.Watcher.HitCount

/-!
# How the wait for hits ends

The wait makes one search after the other, until an answer does not put it off or its time is used
up. Only an answer that shows enough hits lets it succeed.

**Results.**
* `Search.consecutive_iff`: the trials of the poll are searches, by induction on them.
* `runs_awaitHits_iff`: the runs of the wait, search by search.
* `awaits_hits_unless_too_deep`: how the wait ends, for every service.
-/

namespace RestartCheck
namespace Watcher

open RestartCheck.Action Trace

/-! ## Searches -/

/-- One search of the wait: the answer to it, and the clock reading after it, which is only taken
when the answer puts the wait off. -/
structure Search where
  answer : Except Failure Response
  reading : Float

/-- The last search ends the wait: every other one is put off in time, and the last is not put off
or has used the time up. -/
structure IsCourse
    (minHits : Int)
    (timeout start : Float)
    (earlier : List Search)
    (last : Search) : Prop where
  waits : ∀ search ∈ earlier,
    PutsOff minHits search.answer ∧ ¬timeout ≤ search.reading - start
  ends : PutsOff minHits last.answer → timeout ≤ last.reading - start

/-- The events show these searches and no other request.  The clock is read at the start and after
every search that is put off. -/
structure Records
    (index : String)
    (minHits : Int)
    (start : Float)
    (earlier : List Search)
    (last : Search)
    (events : List Event) : Prop where
  exchanged :
    exchanges events =
      (earlier ++ [last]).map fun search => ⟨searchRequest index, search.answer⟩
  read_putsOff : PutsOff minHits last.answer →
    readings events = start :: (earlier ++ [last]).map Search.reading
  read_final : ¬PutsOff minHits last.answer →
    readings events = start :: earlier.map Search.reading

namespace Search

variable {index : String} {minHits : Int} {session : Session}

/-- The trial of the poll that a search is. -/
def trial
    (index : String)
    (minHits : Int)
    (session : Session)
    (search : Search) : Poll.Trial Int :=
  ⟨[⟨.call (searchRequest index), search.answer⟩], searched index minHits search.answer, session,
    search.reading⟩

theorem isDecisive_trial_iff
    {timeout start : Float} {search : Search} :
    (search.trial index minHits session).IsDecisive timeout start ↔
      ¬PutsOff minHits search.answer ∨ timeout ≤ search.reading - start := by
  rw [Poll.Trial.isDecisive_iff_of_isTellable (isTellable_searched index minHits search.answer),
    ← isTransient_searched_iff index, Bool.not_eq_true]
  rfl

theorem isCourse_iff
    {timeout start : Float} {earlier : List Search} {last : Search} :
    IsCourse minHits timeout start earlier last ↔
      (∀ trial' ∈ earlier.map (trial index minHits session), ¬trial'.IsDecisive timeout start) ∧
      (last.trial index minHits session).IsDecisive timeout start := by
  simp only [List.forall_mem_map, isDecisive_trial_iff, not_or, not_not]
  constructor
  · rintro ⟨hwaits, hends⟩
    exact ⟨hwaits, not_or_of_imp hends⟩
  · rintro ⟨hwaits, hends⟩
    exact ⟨hwaits, fun hputs => hends.resolve_left (not_not.mpr hputs)⟩

/-- The trials of the wait are searches, and none of them changes the memory. -/
theorem consecutive_iff
    {before after : Session} {trials : List (Poll.Trial Int)} :
    Poll.Consecutive (enoughHits index minHits) before trials after ↔
      after = before ∧
      ∃ searches : List Search, trials = searches.map (trial index minHits before) := by
  induction trials generalizing before with
  | nil => simp [Poll.Consecutive]
  | cons first rest ih =>
      rw [Poll.Consecutive, runs_enoughHits_iff, ih]
      constructor
      · rintro ⟨⟨answer, hevents, houtcome, hafter⟩, rfl, searches, rfl⟩
        obtain ⟨events, outcome, after, reading⟩ := first
        cases hevents
        cases houtcome
        cases hafter
        exact ⟨rfl, ⟨answer, reading⟩ :: searches, rfl⟩
      · rintro ⟨rfl, searches, hsearches⟩
        cases searches with
        | nil => cases hsearches
        | cons search searches =>
            rw [List.map_cons, List.cons.injEq] at hsearches
            obtain ⟨rfl, rfl⟩ := hsearches
            exact ⟨⟨search.answer, rfl, rfl, rfl⟩, rfl, searches, rfl⟩

end Search

section Wait

variable {settings : WatcherSettings} {ctx : ScenarioContext} {index number : String}
  {before after : Session} {events : List Event} {result : Except Failure Int}

/-- The events of the wait. -/
def waitEvents
    (settings : WatcherSettings)
    (index description : String)
    (session : Session)
    (start : Float)
    (earlier : List Search)
    (last : Search) : List Event :=
  let trial := Search.trial index settings.minHits session
  ⟨.now, start⟩ ::
    (Poll.earlierEvents settings.poll.interval settings.poll.timeout description start 1
        (earlier.map trial)
      ++ (trial last).lastEvents
      ++ (trial last).closing description settings.poll.timeout start
          ((earlier.map trial).length + 1))

theorem records_waitEvents
    (description : String)
    (session : Session)
    (start : Float)
    (earlier : List Search)
    (last : Search) :
    Records index settings.minHits start earlier last
      (waitEvents settings index description session start earlier last) := by
  have hread : readings (waitEvents settings index description session start earlier last) =
      start :: (earlier.map Search.reading ++
        if Poll.isTransient (searched index settings.minHits last.answer) then [last.reading]
        else []) := by
    change start :: readings (_ ++ _ ++ _) = _
    rw [readings_append, readings_append, Poll.readings_earlierEvents, Poll.readings_lastEvents,
      Poll.readings_closing, List.append_nil, List.flatMap_map, List.map_eq_flatMap]
    rfl
  refine ⟨?_, fun hputs => ?_, fun hfinal => ?_⟩
  · rw [waitEvents, Poll.exchanges_history, Poll.exchangesOf]
    rw [List.flatMap_append, List.flatMap_map, List.map_append, List.map_eq_flatMap]
    rfl
  · rw [hread, (isTransient_searched_iff index).mpr hputs]
    simp
  · rw [← isTransient_searched_iff index, Bool.not_eq_true] at hfinal
    rw [hread, hfinal]
    simp

/-- The runs of the wait, search by search. -/
theorem runs_awaitHits_iff
    (husable : ¬Poll.IsUnusable settings.poll.interval settings.poll.timeout)
    (hnumber : Decimal.integerText? settings.minHits = some number) :
    (awaitHits settings ctx index).Runs before events result after ↔
      ∃ (start : Float) (earlier : List Search) (last : Search),
        earlier.length < ctx.harness.patience ∧
        IsCourse settings.minHits settings.poll.timeout start earlier last ∧
        events = waitEvents settings index ("[" ++ index ++ "] has " ++ number ++ " hits") before
          start earlier last ∧
        result = Poll.decided ("[" ++ index ++ "] has " ++ number ++ " hits") settings.poll.timeout
          (earlier.length + 1) (searched index settings.minHits last.answer) ∧
        after = before := by
  unfold awaitHits
  rw [hnumber, Poll.runs_awaitConvergence_of_usable husable]
  have hcomes : ∀ (start : Float) (attempts : Nat) (last : Search),
      (last.trial index settings.minHits before).comesTo ("[" ++ index ++ "] has " ++ number ++
          " hits") settings.poll.timeout start attempts =
        Poll.decided ("[" ++ index ++ "] has " ++ number ++ " hits") settings.poll.timeout attempts
          (searched index settings.minHits last.answer) :=
    fun _ _ last => Poll.Trial.comesTo_of_isTellable (isTellable_searched index _ last.answer)
  constructor
  · rintro ⟨start, trials, trial, hlength, hconsecutive, hwaits, hends, rfl, rfl⟩
    obtain ⟨rfl, searches, hsearches⟩ := Search.consecutive_iff.mp hconsecutive
    obtain ⟨earlier, lasts, rfl, rfl, hlasts⟩ := List.append_eq_map_iff.mp hsearches
    obtain ⟨last, rfl, rfl⟩ := List.map_eq_singleton_iff.mp hlasts
    rw [List.length_map] at hlength
    refine ⟨start, earlier, last, hlength, Search.isCourse_iff.mpr ⟨hwaits, hends⟩, rfl, ?_, rfl⟩
    rw [hcomes, List.length_map]
  · rintro ⟨start, earlier, last, hlength, hcourse, rfl, rfl, rfl⟩
    obtain ⟨hwaits, hends⟩ := Search.isCourse_iff.mp hcourse
    refine ⟨start, _, _, ?_, ?_, hwaits, hends, rfl, ?_⟩
    · rwa [List.length_map]
    · exact Search.consecutive_iff.mpr ⟨rfl, earlier ++ [last], by simp⟩
    · rw [hcomes, List.length_map]

/-- Every course of searches that fits into the attempts granted is one of a run. -/
theorem exists_runs_awaitHits
    {start : Float} {earlier : List Search} {last : Search}
    (ctx : ScenarioContext)
    (index : String)
    (before : Session)
    (husable : ¬Poll.IsUnusable settings.poll.interval settings.poll.timeout)
    (hnumber : Decimal.integerText? settings.minHits = some number)
    (hlength : earlier.length < ctx.harness.patience)
    (hcourse : IsCourse settings.minHits settings.poll.timeout start earlier last) :
    ∃ events result,
      (awaitHits settings ctx index).Runs before events result before ∧
      Records index settings.minHits start earlier last events ∧
      Ends settings.minHits (earlier.length + 1) last.answer result :=
  ⟨_, _, (runs_awaitHits_iff husable hnumber).mpr
    ⟨start, earlier, last, hlength, hcourse, rfl, rfl, rfl⟩,
    records_waitEvents _ _ _ _ _, ends_of_answer _ _ _ _ _⟩

end Wait

/-- **The wait for hits needs evidence.**  The wait makes one search after the other.  Each of them
but the last is put off in time, and the last is not put off or has used the time up.  The wait
succeeds exactly with the number of hits that the last answer shows when this is enough.  It runs
out of time, or reports the service out of reach, when the last search is put off, and any other
answer is fatal at once, except that the wait crashes on an answer that is nested too deeply.  When
the number of hits to wait for has too many digits to be written, no search is made. -/
theorem awaits_hits_unless_too_deep
    (settings : WatcherSettings)
    (ctx : ScenarioContext)
    (index : String)
    (before : Session)
    (husable : ¬Poll.IsUnusable settings.poll.interval settings.poll.timeout) :
    (Decimal.integerText? settings.minHits = none →
      ∀ events result after,
        (awaitHits settings ctx index).Runs before events result after ↔
          events = [] ∧
          result = .error (.defect (.badValue Decimal.unwrittenMessage)) ∧
          after = before) ∧
    (Decimal.integerText? settings.minHits ≠ none →
      (∀ start earlier last,
        earlier.length < ctx.harness.patience →
        IsCourse settings.minHits settings.poll.timeout start earlier last →
        ∃ events result after,
          (awaitHits settings ctx index).Runs before events result after ∧
          Records index settings.minHits start earlier last events) ∧
      ∀ events result after,
        (awaitHits settings ctx index).Runs before events result after →
        (∀ exchange ∈ exchanges events, ∀ failure,
          exchange.answer = .error failure → ∃ cause, failure = .unreachable cause) →
        ∃ start earlier last,
          IsCourse settings.minHits settings.poll.timeout start earlier last ∧
          Records index settings.minHits start earlier last events ∧
          Ends settings.minHits (earlier.length + 1) last.answer result ∧
          ((∀ response, last.answer = .ok response → ¬response.IsTooDeep) →
            ∀ failure, result = .error failure → IsTold failure)) := by
  constructor
  · intro hnone events result after
    unfold awaitHits
    rw [hnone]
    exact runs_fail_iff
  · intro hwritten
    obtain ⟨number, hnumber⟩ := Option.ne_none_iff_exists'.mp hwritten
    refine ⟨fun start earlier last hlength hcourse => ?_, fun events result after hrun hcame => ?_⟩
    · obtain ⟨events, result, hrun, hrecords, _⟩ :=
        exists_runs_awaitHits ctx index before husable hnumber hlength hcourse
      exact ⟨events, result, before, hrun, hrecords⟩
    · obtain ⟨start, earlier, last, _, hcourse, hevents, hresult, _⟩ :=
        (runs_awaitHits_iff husable hnumber).mp hrun
      have hrecords : Records index settings.minHits start earlier last events :=
        hevents ▸ records_waitEvents _ _ _ _ _
      have hends : Ends settings.minHits (earlier.length + 1) last.answer result :=
        hresult ▸ ends_of_answer _ _ _ _ _
      refine ⟨start, earlier, last, hcourse, hrecords, hends, fun hshallow failure => ?_⟩
      refine hends.isTold (fun failure hfailure => ?_) hshallow
      refine hcame ⟨searchRequest index, last.answer⟩ ?_ failure hfailure
      rw [hrecords.exchanged]
      simp

section Cases

/-- The context of a run whose polls are granted two attempts. -/
def patientContext : ScenarioContext :=
  { standardContext with harness.patience := 2 }

def fiveHitsText : List Char :=
  objectText [("hits", objectText [("total", objectText [("value", "5".toList)])])]

theorem showsHits_fiveHitsText : ShowsHits ⟨200, String.ofList fiveHitsText⟩ 5 := by
  have hfive : holdsObject (fun body =>
      match totalHits (.object body) with
      | .ok hits => hits == 5
      | .error _ => false) fiveHitsText = true := by
    decide +kernel
  obtain ⟨body, hbody, htest⟩ := exists_object_of_chars 200 _ (List.cons_ne_nil _ _) hfive
  refine showsHits_iff.mpr ⟨rfl, body, hbody, ?_⟩
  split at htest
  · next hits hhits =>
      rw [hhits, eq_of_beq htest]
  · cases htest

/-- The index is not available at first, and then it has five hits. -/
theorem awaits_five_hits :
    ∃ events after,
      (awaitHits {} patientContext outputIndex).Runs {} events (.ok 5) after ∧
      exchanges events =
        [⟨searchRequest outputIndex, .ok ⟨503, ""⟩⟩,
         ⟨searchRequest outputIndex, .ok ⟨200, String.ofList fiveHitsText⟩⟩] := by
  obtain ⟨_, hwritten⟩ :=
    awaits_hits_unless_too_deep {} patientContext outputIndex {} (by decide +kernel)
  obtain ⟨hexists, hends⟩ := hwritten (by decide +kernel)
  have hcourse : IsCourse 2 30.0 0.0 [⟨.ok ⟨503, ""⟩, 0.5⟩]
      ⟨.ok ⟨200, String.ofList fiveHitsText⟩, 2.0⟩ := by
    refine ⟨List.forall_mem_singleton.mpr ⟨.inactive rfl, by decide +kernel⟩, fun hputs => ?_⟩
    exact absurd (hputs.lt_of_showsHits showsHits_fiveHitsText) (by decide)
  obtain ⟨events, result, after, hrun, hrecords⟩ := hexists _ _ _ (by decide) hcourse
  have hcame : ∀ exchange ∈ exchanges events, ∀ failure,
      exchange.answer = .error failure → ∃ cause, failure = .unreachable cause := by
    rw [hrecords.exchanged]
    simp
  obtain ⟨start, earlier, last, _, hrecorded, hended, _⟩ := hends events result after hrun hcame
  have hlast : last.answer = .ok ⟨200, String.ofList fiveHitsText⟩ := by
    have hsame := hrecorded.exchanged.symm.trans hrecords.exchanged
    rw [List.map_append, List.map_append] at hsame
    have hend := (List.append_inj' hsame rfl).2
    simpa using hend
  have hresult : result = .ok 5 :=
    (hended.ok_iff 5).mpr ⟨by decide, _, hlast, showsHits_fiveHitsText⟩
  exact ⟨events, after, hresult ▸ hrun, hrecords.exchanged⟩

/-- A search is answered with success and a body of brackets. -/
theorem crashes_on_deep_hits :
    ∃ events after,
      (awaitHits {} patientContext outputIndex).Runs {} events
        (.error (.defect .nestingTooDeep)) after ∧
      exchanges events = [⟨searchRequest outputIndex, .ok ⟨200, Json.deepText⟩⟩] ∧
      ¬PutsOff 2 (.ok ⟨200, Json.deepText⟩) ∧
      (∀ hits, ¬ShowsHits ⟨200, Json.deepText⟩ hits) ∧
      ¬IsTold (.defect .nestingTooDeep) := by
  have hdeep := Response.isTooDeep_deepText
  have hfinal : ¬PutsOff 2 (.ok ⟨200, Json.deepText⟩) := fun hputs => hputs.not_isTooDeep hdeep
  have hnumber : Decimal.integerText? ({} : WatcherSettings).minHits = some "2" := by
    decide +kernel
  have hcourse : IsCourse ({} : WatcherSettings).minHits ({} : WatcherSettings).poll.timeout 0.0 []
      ⟨.ok ⟨200, Json.deepText⟩, 0.0⟩ :=
    ⟨List.forall_mem_nil _, fun hputs => absurd hputs hfinal⟩
  obtain ⟨events, result, hrun, hrecords, hends⟩ :=
    exists_runs_awaitHits patientContext outputIndex {} (by decide +kernel) hnumber (by decide)
      hcourse
  rw [hends.crash _ rfl hdeep] at hrun
  exact ⟨events, {}, hrun, hrecords.exchanged, hfinal,
    fun hits hshows => hshows.not_isTooDeep hdeep, id⟩

end Cases

end Watcher
end RestartCheck
