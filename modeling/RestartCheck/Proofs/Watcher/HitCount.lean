import RestartCheck.Proofs.Json.Nesting
import RestartCheck.Proofs.Poll.Exchanges
import RestartCheck.Proofs.Poll.Telling
import RestartCheck.Proofs.Watcher.Waits

/-!
# What an answer means for the wait for hits

The wait for hits repeats one search.  An answer *puts it off* when it says that the index is not
there yet or not available, or shows too few hits, or when there is none because the service is out
of reach.  Every other answer ends the wait at once.

**Results.**
* `showsHits_iff`: the numbers of hits that are read are the ones that are shown.
* `runs_enoughHits_iff`: one search is one request, and its answer decides what it comes to.
* `judged_searched`: how an answer is judged, by what it says.
* `ends_of_answer`: what the last answer makes of the wait.
-/

namespace RestartCheck
namespace Watcher

open RestartCheck.Action Trace

/-! ## Answers -/

/-- The value stands for this number of hits, plainly or as the value of an object. -/
def Counts
    (total : Json)
    (hits : Int) : Prop :=
  total = .int hits ∨
    ∃ members, total = .object members ∧ OrderedMap.lookup members "value" = some (.int hits)

/-- The answer shows this number of hits. -/
def ShowsHits
    (response : Response)
    (hits : Int) : Prop :=
  (200 ≤ response.status ∧ response.status < 300) ∧
  ∃ body found total,
    Json.decode response.body = .ok (.object body) ∧
    OrderedMap.lookup body "hits" = some (.object found) ∧
    OrderedMap.lookup found "total" = some total ∧
    Counts total hits

/-- The answer puts the wait off. -/
inductive PutsOff (minHits : Int) : Except Failure Response → Prop
  | absent
      {response : Response}
      (hstatus : response.status = 404) :
      PutsOff minHits (.ok response)
  | inactive
      {response : Response}
      (hstatus : response.status = 503) :
      PutsOff minHits (.ok response)
  | few
      {response : Response} {hits : Int}
      (hshows : ShowsHits response hits)
      (hfew : hits < minHits) :
      PutsOff minHits (.ok response)
  | unreachable
      (cause : String) :
      PutsOff minHits (.error (.unreachable cause))

/-- What is made of the last answer after a number of searches. -/
structure Ends
    (minHits : Int)
    (searches : Nat)
    (answer : Except Failure Response)
    (result : Except Failure Int) : Prop where
  /-- The wait succeeds exactly with a number of hits that is shown and is enough. -/
  ok_iff : ∀ hits,
    result = .ok hits ↔
      minHits ≤ hits ∧ ∃ response, answer = .ok response ∧ ShowsHits response hits
  /-- The time is used up. -/
  expired : ∀ response, answer = .ok response → PutsOff minHits answer →
    ∃ message seen, result = .error (.timedOut message seen searches)
  /-- The time is used up, and the service is out of reach. -/
  unreached : ∀ cause, answer = .error (.unreachable cause) →
    ∃ message, result = .error (.unreachable message)
  /-- The answer neither puts the wait off nor shows a number. -/
  fatal : ∀ response, answer = .ok response → ¬PutsOff minHits answer →
    ¬response.IsTooDeep → (∀ hits, ¬ShowsHits response hits) →
    ∃ message details, result = .error (.fatal message details)
  /-- The answer cannot be read at all. -/
  crash : ∀ response, answer = .ok response → response.IsTooDeep →
    result = .error (.defect .nestingTooDeep)

/-- The failures that a wait tells of. -/
def IsTold : Failure → Prop
  | .fatal _ _ => True
  | .timedOut _ _ _ => True
  | .unreachable _ => True
  | _ => False

section Answers

variable {body : Json.Members} {response : Response} {minHits hits : Int}

/-- What an object holds as the total of its hits. -/
def totalIn (body : Json.Members) : Option Json :=
  match OrderedMap.lookup body "hits" with
  | some (.object found) => OrderedMap.lookup found "total"
  | _ => none

theorem totalIn_eq_some_iff
    {total : Json} :
    totalIn body = some total ↔
      ∃ found,
        OrderedMap.lookup body "hits" = some (.object found) ∧
        OrderedMap.lookup found "total" = some total := by
  unfold totalIn
  split
  · next found hfound => simp [hfound]
  · next hother =>
      simp only [reduceCtorEq, false_iff]
      rintro ⟨found, hfound, _⟩
      exact hother found hfound

/-- The path to the total never stumbles, for it has no index. -/
theorem find_total
    (body : Json.Members) :
    (Json.object body).find "hits.total" = .ok (totalIn body) := by
  have hsegments : Json.segments "hits.total".toList = ["hits".toList, "total".toList] := by
    decide
  unfold Json.find totalIn
  rw [hsegments, Json.walk, Json.step, String.ofList_toList]
  cases OrderedMap.lookup body "hits" with
  | none => rfl
  | some next =>
      cases next with
      | object found =>
          simp only [Json.walk, Json.step, String.ofList_toList]
          cases OrderedMap.lookup found "total" <;> rfl
      | _ => rfl

/-- The number that a value is read as. -/
def numberIn : Json → Json
  | .object members => Json.Members.getOrNull members "value"
  | other => other

theorem numberIn_eq_int_iff
    {total : Json} :
    numberIn total = .int hits ↔ Counts total hits := by
  cases total with
  | object members =>
      rw [numberIn, Json.Members.getOrNull_eq_iff (by simp), Counts]
      simp
  | _ => simp [numberIn, Counts]

theorem totalHits_of_totalIn
    {total : Json}
    (htotal : totalIn body = some total) :
    totalHits (.object body) =
      match numberIn total with
      | .int hits => .ok hits
      | other => .error (.defect (.badValue ("unexpected hits.total: " ++ other.literal))) := by
  unfold totalHits Json.extract
  rw [find_total, htotal]
  cases total <;> rfl

theorem totalHits_of_totalIn_eq_none
    (hnone : totalIn body = none) :
    ∃ message details, totalHits (.object body) = .error (.fatal message details) := by
  unfold totalHits Json.extract
  rw [find_total, hnone]
  exact ⟨_, _, rfl⟩

/-- The total of the hits is read exactly when it stands for a number. -/
theorem totalHits_eq_ok_iff :
    totalHits (.object body) = .ok hits ↔
      ∃ total, totalIn body = some total ∧ Counts total hits := by
  simp only [← numberIn_eq_int_iff]
  cases htotal : totalIn body with
  | none =>
      obtain ⟨message, details, hfailed⟩ := totalHits_of_totalIn_eq_none htotal
      simp [hfailed]
  | some total =>
      rw [totalHits_of_totalIn htotal]
      cases hnumber : numberIn total <;> simp [hnumber]

/-- A total that is not read is missing, or it is something else than a number. -/
theorem fatal_or_badValue_of_totalHits
    {failure : Failure}
    (hfailed : totalHits (.object body) = .error failure) :
    (∃ message details, failure = .fatal message details) ∨
      ∃ message, failure = .defect (.badValue message) := by
  cases htotal : totalIn body with
  | none =>
      obtain ⟨message, details, hmissing⟩ := totalHits_of_totalIn_eq_none htotal
      rw [hmissing] at hfailed
      cases hfailed
      exact Or.inl ⟨message, details, rfl⟩
  | some total =>
      rw [totalHits_of_totalIn htotal] at hfailed
      split at hfailed
      · cases hfailed
      · cases hfailed
        exact Or.inr ⟨_, rfl⟩

theorem showsHits_iff :
    ShowsHits response hits ↔
      response.ok = true ∧
      ∃ body, response.object = .ok body ∧ totalHits (.object body) = .ok hits := by
  rw [ShowsHits, Response.ok_iff]
  refine and_congr_right fun _ => ?_
  simp only [totalHits_eq_ok_iff, totalIn_eq_some_iff]
  constructor
  · rintro ⟨body, found, total, hdecoded, hfound, htotal, hcounts⟩
    exact ⟨body, Response.object_eq_ok_iff.mpr (Or.inr hdecoded), total, ⟨found, hfound, htotal⟩,
      hcounts⟩
  · rintro ⟨body, hbody, total, ⟨found, hfound, htotal⟩, hcounts⟩
    rcases Response.object_eq_ok_iff.mp hbody with ⟨_, rfl⟩ | hdecoded
    · -- An empty body is read as an object without hits.
      cases hfound
    · exact ⟨body, found, total, hdecoded, hfound, htotal, hcounts⟩

/-! ## One search -/

/-- What one search comes to, given the answer to it. -/
def searched
    (index : String)
    (minHits : Int) :
    Except Failure Response → Except Failure (PollOutcome Int)
  | .error failure => .error failure
  | .ok response =>
      if response.status = 404 ∨ response.status = 503 then
        .ok (.pending (.json (.string ("status " ++ toString response.status))))
      else if !response.ok then
        .ok (.fatal ("search on [" ++ index ++ "] answered " ++ toString response.status)
          (.string response.body))
      else response.object >>= fun body => hitsOutcome minHits (totalHits (.object body))

/-- A search judges its answer without any further effect. -/
theorem enoughHits_eq
    (index : String)
    (minHits : Int) :
    enoughHits index minHits =
      call (searchRequest index) >>= fun response =>
        Action.ofExcept (searched index minHits (.ok response)) := by
  unfold enoughHits
  refine congrArg (call (searchRequest index) >>= ·) (funext fun response => ?_)
  unfold searched
  simp only
  split
  · rfl
  · split
    · rfl
    · cases response.object with
      | error failure => rfl
      | ok body => rfl

/-- One search is one request, and its answer decides what it comes to. -/
theorem runs_enoughHits_iff
    {index : String} {before after : Session} {events : List Event}
    {outcome : Except Failure (PollOutcome Int)} :
    (enoughHits index minHits).Runs before events outcome after ↔
      ∃ answer,
        events = [⟨.call (searchRequest index), answer⟩] ∧
        outcome = searched index minHits answer ∧
        after = before := by
  rw [enoughHits_eq, runs_call_bind_iff]
  simp only [runs_ofExcept_iff]
  constructor
  · rintro (⟨response, rest, rfl, rfl, rfl, rfl⟩ | ⟨failure, rfl, rfl, rfl⟩)
    · exact ⟨.ok response, rfl, rfl, rfl⟩
    · exact ⟨.error failure, rfl, rfl, rfl⟩
  · rintro ⟨answer, rfl, rfl, rfl⟩
    cases answer with
    | ok response => exact Or.inl ⟨response, [], rfl, rfl, rfl, rfl⟩
    | error failure => exact Or.inr ⟨failure, rfl, rfl, rfl⟩

theorem ShowsHits.unique
    {other : Int}
    (hshows : ShowsHits response hits)
    (hother : ShowsHits response other) :
    hits = other := by
  obtain ⟨_, body, hbody, hhits⟩ := showsHits_iff.mp hshows
  obtain ⟨_, found, hfound, hcount⟩ := showsHits_iff.mp hother
  cases hbody.symm.trans hfound
  cases hhits.symm.trans hcount
  rfl

theorem ShowsHits.not_isTooDeep
    (hshows : ShowsHits response hits) :
    ¬response.IsTooDeep := by
  obtain ⟨_, body, hbody, _⟩ := showsHits_iff.mp hshows
  exact Response.not_isTooDeep_of_object hbody

/-- A number of hits that is shown was decoded, so it can be told. -/
theorem ShowsHits.isTellable
    (hshows : ShowsHits response hits) :
    (Observed.json (.int hits)).IsTellable := by
  obtain ⟨_, body, found, total, hdecoded, hfound, htotal, hcounts⟩ := hshows
  have hwritable := ((Json.IsWritable.of_decode hdecoded).of_lookup hfound).of_lookup htotal
  have hhits : Json.IsWritable (.int hits) := by
    rcases hcounts with rfl | ⟨members, rfl, hvalue⟩
    · exact hwritable
    · exact hwritable.of_lookup hvalue
  cases hhits with
  | int hfits => exact Observed.isTellable_int hfits

/-- An answer that reports success only puts the wait off with too few hits. -/
theorem putsOff_iff_of_ok
    (hok : response.ok = true) :
    PutsOff minHits (.ok response) ↔ ∃ hits, ShowsHits response hits ∧ hits < minHits := by
  rw [Response.ok_iff] at hok
  constructor
  · rintro (hstatus | hstatus | ⟨hshows, hfew⟩)
    · omega
    · omega
    · exact ⟨_, hshows, hfew⟩
  · rintro ⟨hits, hshows, hfew⟩
    exact .few hshows hfew

theorem PutsOff.lt_of_showsHits
    (hputs : PutsOff minHits (.ok response))
    (hshows : ShowsHits response hits) :
    hits < minHits := by
  obtain ⟨few, hfew, hlt⟩ := (putsOff_iff_of_ok (showsHits_iff.mp hshows).1).mp hputs
  rwa [hshows.unique hfew]

theorem PutsOff.not_isTooDeep
    (hputs : PutsOff minHits (.ok response)) :
    ¬response.IsTooDeep := by
  intro hdeep
  obtain ⟨few, hfew, _⟩ := (putsOff_iff_of_ok hdeep.1).mp hputs
  exact hfew.not_isTooDeep hdeep

/-- How an answer is judged, by what it says. -/
inductive Judged
    (minHits : Int)
    (response : Response) : Except Failure (PollOutcome Int) → Prop
  | waits
      (seen : Observed)
      (hputs : PutsOff minHits (.ok response))
      (htellable : seen.IsTellable) :
      Judged minHits response (.ok (.pending seen))
  | found
      {hits : Int}
      (hshows : ShowsHits response hits)
      (henough : minHits ≤ hits) :
      Judged minHits response (.ok (.converged hits))
  | refused
      (reason : String)
      (details : Json)
      (hends : ¬PutsOff minHits (.ok response))
      (hshallow : ¬response.IsTooDeep)
      (hnone : ∀ hits, ¬ShowsHits response hits) :
      Judged minHits response (.ok (.fatal reason details))
  | failed
      (message : String)
      (details : Json)
      (hends : ¬PutsOff minHits (.ok response))
      (hshallow : ¬response.IsTooDeep)
      (hnone : ∀ hits, ¬ShowsHits response hits) :
      Judged minHits response (.error (.fatal message details))
  | crashed
      (hdeep : response.IsTooDeep) :
      Judged minHits response (.error (.defect .nestingTooDeep))

/-- An answer that holds an object is judged by its hits. -/
theorem judged_hitsOutcome
    (hok : response.ok = true)
    (hbody : response.object = .ok body) :
    Judged minHits response (hitsOutcome minHits (totalHits (.object body))) := by
  have hshallow := Response.not_isTooDeep_of_object hbody
  cases hhits : totalHits (.object body) with
  | ok hits =>
      have hshows : ShowsHits response hits := showsHits_iff.mpr ⟨hok, body, hbody, hhits⟩
      unfold hitsOutcome
      simp only
      split
      · next henough => exact .found hshows henough
      · next hfew => exact .waits _ (.few hshows (Int.not_le.mp hfew)) hshows.isTellable
  | error failure =>
      have hnone : ∀ hits, ¬ShowsHits response hits := by
        intro hits hshows
        obtain ⟨_, found, hfound, hcount⟩ := showsHits_iff.mp hshows
        cases hbody.symm.trans hfound
        cases hhits.symm.trans hcount
      have hends : ¬PutsOff minHits (.ok response) := by
        rw [putsOff_iff_of_ok hok]
        rintro ⟨hits, hshows, _⟩
        exact hnone hits hshows
      rcases fatal_or_badValue_of_totalHits hhits with ⟨message, details, rfl⟩ | ⟨message, rfl⟩
      · exact .failed message details hends hshallow hnone
      · exact .refused message .null hends hshallow hnone

theorem judged_searched
    (index : String)
    (minHits : Int)
    (response : Response) :
    Judged minHits response (searched index minHits (.ok response)) := by
  rw [searched]
  split
  · next hstatus =>
      rcases hstatus with hstatus | hstatus
      · exact .waits _ (.absent hstatus) (Observed.isTellable_text _)
      · exact .waits _ (.inactive hstatus) (Observed.isTellable_text _)
  · next hstatus =>
      cases hok : response.ok with
      | false =>
          have hnone : ∀ hits, ¬ShowsHits response hits := by
            intro hits hshows
            cases hok.symm.trans (showsHits_iff.mp hshows).1
          refine .refused _ _ ?_ (fun hdeep => ?_) hnone
          · rintro (habsent | hinactive | ⟨hshows, _⟩)
            · exact hstatus (Or.inl habsent)
            · exact hstatus (Or.inr hinactive)
            · exact hnone _ hshows
          · cases hok.symm.trans hdeep.1
      | true =>
          rw [Bool.not_true, if_neg Bool.false_ne_true]
          cases hobject : response.object with
          | ok body => exact judged_hitsOutcome hok hobject
          | error failure =>
              have hnone : ∀ hits, ¬ShowsHits response hits := by
                intro hits hshows
                obtain ⟨_, body, hbody, _⟩ := showsHits_iff.mp hshows
                cases hobject.symm.trans hbody
              rcases Response.fatal_or_tooDeep_of_object hobject with
                ⟨message, details, rfl⟩ | ⟨hdeep, rfl⟩
              · refine .failed message details ?_ (fun hdeep => ?_) hnone
                · rw [putsOff_iff_of_ok hok]
                  rintro ⟨hits, hshows, _⟩
                  exact hnone hits hshows
                · cases hobject.symm.trans (Response.object_of_tooDeep hdeep.2)
              · exact .crashed ⟨hok, hdeep⟩

/-- The searches after which the wait goes on are those whose answers put it off. -/
theorem isTransient_searched_iff
    {answer : Except Failure Response}
    (index : String) :
    Poll.isTransient (searched index minHits answer) = true ↔ PutsOff minHits answer := by
  cases answer with
  | error failure =>
      constructor
      · intro htransient
        cases failure with
        | unreachable cause => exact .unreachable cause
        | _ => cases htransient
      · rintro ⟨⟩
        rfl
  | ok response =>
      have hjudged := judged_searched index minHits response
      generalize searched index minHits (.ok response) = outcome at hjudged
      cases hjudged with
      | waits seen hputs => exact ⟨fun _ => hputs, fun _ => rfl⟩
      | found hshows henough =>
          refine ⟨fun htransient => (by cases htransient), fun hputs => ?_⟩
          exact absurd (hputs.lt_of_showsHits hshows) (Int.not_lt.mpr henough)
      | refused _ _ hends =>
          exact ⟨fun htransient => (by cases htransient), fun hputs => absurd hputs hends⟩
      | failed _ _ hends =>
          exact ⟨fun htransient => (by cases htransient), fun hputs => absurd hputs hends⟩
      | crashed hdeep =>
          exact ⟨fun htransient => (by cases htransient),
            fun hputs => absurd hdeep hputs.not_isTooDeep⟩

/-- What a search sees can be told. -/
theorem isTellable_searched
    (index : String)
    (minHits : Int)
    (answer : Except Failure Response) :
    (Poll.seenIn (searched index minHits answer)).IsTellable := by
  cases answer with
  | error failure =>
      rcases Poll.outcome_cases (searched index minHits (.error failure)) with
        ⟨seen, hseen⟩ | ⟨cause, hcause⟩ | ⟨_, hnull, _⟩
      · cases hseen
      · rw [hcause]
        exact Observed.isTellable_text cause
      · rw [hnull]
        exact Observed.isTellable_null
  | ok response =>
      have hjudged := judged_searched index minHits response
      generalize searched index minHits (.ok response) = outcome at hjudged
      cases hjudged with
      | waits seen _ htellable => exact htellable
      | _ => exact Observed.isTellable_null

theorem Judged.ends
    {outcome : Except Failure (PollOutcome Int)}
    (hjudged : Judged minHits response outcome)
    (description : String)
    (timeout : Float)
    (searches : Nat) :
    Ends minHits searches (.ok response)
      (Poll.decided description timeout searches outcome) := by
  refine ⟨fun hits => ?_, ?_, ?_, ?_, ?_⟩
  · simp only [Poll.decided_eq_ok_iff, Except.ok.injEq, exists_eq_left']
    cases hjudged with
    | waits seen hputs =>
        simp only [Except.ok.injEq, reduceCtorEq, false_iff]
        rintro ⟨henough, hshows⟩
        exact absurd (hputs.lt_of_showsHits hshows) (Int.not_lt.mpr henough)
    | found hshows henough =>
        simp only [Except.ok.injEq, PollOutcome.converged.injEq]
        constructor
        · rintro rfl
          exact ⟨henough, hshows⟩
        · rintro ⟨_, hother⟩
          exact hshows.unique hother
    | refused _ _ _ _ hnone => simp [hnone]
    | failed _ _ _ _ hnone => simp [hnone]
    | crashed hdeep =>
        simp only [reduceCtorEq, false_iff]
        rintro ⟨_, hshows⟩
        exact hshows.not_isTooDeep hdeep
  · rintro known hknown hputs
    cases hjudged with
    | waits seen _ htellable =>
        obtain ⟨message, hmessage⟩ := Poll.exists_timedOut_of_isTellable _ _ _ htellable
        exact ⟨message, seen, hmessage⟩
    | found hshows henough =>
        exact absurd (hputs.lt_of_showsHits hshows) (Int.not_lt.mpr henough)
    | refused _ _ hends => exact absurd hputs hends
    | failed _ _ hends => exact absurd hputs hends
    | crashed hdeep => exact absurd hdeep hputs.not_isTooDeep
  · rintro cause ⟨⟩
  · rintro known hknown hends hshallow hnone
    cases hknown
    cases hjudged with
    | waits seen hputs => exact absurd hputs hends
    | found hshows _ => exact absurd hshows (hnone _)
    | refused reason details => exact ⟨_, details, rfl⟩
    | failed message details => exact ⟨message, details, rfl⟩
    | crashed hdeep => exact absurd hdeep hshallow
  · rintro known hknown hdeep
    cases hknown
    cases hjudged with
    | waits seen hputs => exact absurd hdeep hputs.not_isTooDeep
    | found hshows _ => exact absurd hdeep hshows.not_isTooDeep
    | refused _ _ _ hshallow => exact absurd hdeep hshallow
    | failed _ _ _ hshallow => exact absurd hdeep hshallow
    | crashed _ => rfl

/-- What the last answer makes of the wait. -/
theorem ends_of_answer
    (index description : String)
    (timeout : Float)
    (searches : Nat)
    (answer : Except Failure Response) :
    Ends minHits searches answer
      (Poll.decided description timeout searches (searched index minHits answer)) := by
  cases answer with
  | ok response => exact (judged_searched index minHits response).ends description timeout searches
  | error failure =>
      refine ⟨fun hits => ?_, ?_, ?_, ?_, ?_⟩
      · rw [Poll.decided_eq_ok_iff]
        simp [searched]
      · rintro response ⟨⟩
      · rintro cause hunreached
        cases hunreached
        exact ⟨_, rfl⟩
      · rintro response ⟨⟩
      · rintro response ⟨⟩

/-- A wait whose last answer can be read fails in one of the ways that it tells of. -/
theorem Ends.isTold
    {searches : Nat} {answer : Except Failure Response} {result : Except Failure Int}
    {failure : Failure}
    (hends : Ends minHits searches answer result)
    (hanswer : ∀ failure, answer = .error failure → ∃ cause, failure = .unreachable cause)
    (hshallow : ∀ response, answer = .ok response → ¬response.IsTooDeep)
    (hfailed : result = .error failure) :
    IsTold failure := by
  subst hfailed
  cases answer with
  | error known =>
      obtain ⟨cause, rfl⟩ := hanswer known rfl
      obtain ⟨message, hmessage⟩ := hends.unreached cause rfl
      cases hmessage
      trivial
  | ok response =>
      by_cases hputs : PutsOff minHits (.ok response)
      · obtain ⟨message, seen, hmessage⟩ := hends.expired response rfl hputs
        cases hmessage
        trivial
      · have hnone : ∀ hits, ¬ShowsHits response hits := by
          intro hits hshows
          have henough : minHits ≤ hits := Int.not_lt.mp fun hfew => hputs (.few hshows hfew)
          cases (hends.ok_iff hits).mpr ⟨henough, response, rfl, hshows⟩
        obtain ⟨message, details, hmessage⟩ :=
          hends.fatal response rfl hputs (hshallow response rfl) hnone
        cases hmessage
        trivial

end Answers

end Watcher
end RestartCheck
