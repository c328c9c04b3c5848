import RestartCheck.Scenario.SingleRecord
import RestartCheck.Proofs.Effect.Rehearsed
import RestartCheck.Proofs.Json.Fragment
import RestartCheck.Proofs.Json.Nesting

/-!
# What the survival check compares

The second half reads the record back and looks for the text that was stored in the text of the
answer.  The answer is a JSON object whose member `_source` is the record, so the search is to stand
for a comparison of this member with what was stored.

**Results.**
* `survives_iff_written_as_stored`: the half succeeds exactly when some value of the answer, at any
  depth, is written character by character as the record was.  This decides about `_source` when no
  other value is the stored one and `_source` is not spelled in another way.
* `misjudges_elsewhere_and_respelled`: it does not decide about `_source` otherwise.
-/

namespace RestartCheck.SingleRecord

open RestartCheck.Action RestartCheck.Trace Json

/-- The value of the record. -/
def stored : Json :=
  .object [("test", .string "test")]

/-- The value is the one that was stored. -/
def isStored : Json → Bool
  | .object [(name, .string content)] => name == "test" && content == "test"
  | _ => false

theorem isStored_iff
    {value : Json} :
    isStored value = true ↔ value = stored := by
  constructor
  · intro hstored
    unfold isStored at hstored
    split at hstored
    · rw [Bool.and_eq_true, beq_iff_eq, beq_iff_eq] at hstored
      rw [hstored.1, hstored.2, stored]
    · cases hstored
  · rintro rfl
    rfl

theorem record_toList :
    record.toList = plainObject "test".toList "test".toList := by
  decide

/-- The record occurs in a text exactly when some value in it is written as the record was. -/
theorem contains_record_iff
    {text : String} {value : Json}
    (spelling : Spelling text.toList value) :
    Text.contains text record = true ↔ ⟨record.toList, stored⟩ ∈ spelling.parts := by
  rw [Text.contains_iff, record_toList]
  exact spelling.infix_iff_mem_parts (by decide) ⟨by decide, by decide⟩ ⟨by decide, by decide⟩

/-- The request that reads the record back. -/
def readRequest : Request :=
  { method := "GET", path := recordPath }

/-- What the half says about an answer without the record. -/
def lossMessage (response : Response) : String :=
  recordPath ++ " no longer contains " ++ record ++ ": " ++ response.body

/-- How the half ends, by the answer to its request. -/
def outcomeOf (answer : Except Failure Response) : Except Failure Unit :=
  answer.bind fun response =>
    (requireOk response ("reading " ++ recordPath)).bind fun _ =>
      check (Text.contains response.body record) (lossMessage response)

/-- The answer is judged without another request. -/
theorem runs_judge_iff
    {response : Response}
    {before after : Session} {events : List Event} {result : Except Failure Unit} :
    Action.Runs
        (liftM (requireOk response ("reading " ++ recordPath)) >>= fun _ =>
          liftM (check (Text.contains response.body record) (lossMessage response)))
        before events result after ↔
      events = [] ∧ result = outcomeOf (.ok response) ∧ after = before := by
  rw [runs_liftM_bind_iff, outcomeOf, Except.bind]
  cases requireOk response ("reading " ++ recordPath) with
  | ok answered => simp [Except.bind]
  | error failure => simp [Except.bind]

/-- The half is one request, and the answer to it decides. -/
theorem runs_postUpgrade_iff
    {ctx : ScenarioContext}
    {before after : Session} {events : List Event} {result : Except Failure Unit}
    (hdeclared : ctx.declared = scenario.toDeclaration) :
    (scenario.half .postUpgrade ctx).Runs before events result after ↔
      ∃ answer,
        events = [⟨.call readRequest, answer⟩] ∧ result = outcomeOf answer ∧ after = before := by
  have hresource : ctx.resource index = .ok ⟨index, "index"⟩ :=
    ScenarioContext.resource_eq_ok_iff.mpr ⟨rfl, Or.inl (hdeclared ▸ List.mem_cons_self)⟩
  change (liftM (ctx.resource index) >>= fun _ => call readRequest >>= fun response =>
    liftM (requireOk response _) >>= fun _ =>
      liftM (check _ (lossMessage response)) : Action Unit).Runs before events result after ↔ _
  rw [hresource, runs_liftM_bind_iff]
  simp only [runs_call_bind_iff, runs_judge_iff]
  constructor
  · rintro (⟨_, _, ⟨response, _, rfl, rfl, rfl, rfl⟩ | ⟨failure, rfl, rfl, rfl⟩⟩ | ⟨_, hfailed, _⟩)
    · exact ⟨.ok response, rfl, rfl, rfl⟩
    · exact ⟨.error failure, rfl, rfl, rfl⟩
    · cases hfailed
  · rintro ⟨answer, rfl, rfl, rfl⟩
    cases answer with
    | ok response => exact Or.inl ⟨_, rfl, Or.inl ⟨response, [], rfl, rfl, rfl, rfl⟩⟩
    | error failure => exact Or.inl ⟨_, rfl, Or.inr ⟨failure, rfl, rfl, rfl⟩⟩

theorem outcomeOf_of_ok
    {response : Response}
    (hok : response.ok = true) :
    outcomeOf (.ok response) =
      check (Text.contains response.body record) (lossMessage response) := by
  simp [outcomeOf, Except.bind, requireOk, hok]

/-- **The record survives as it was written.**  For an answer with success and an object with a
`_source`, the half succeeds exactly when some value of the answer is written as the record was.
The value may stand at any depth and need not be `_source`.  Otherwise the half fails with the
message that the record is lost.  So it decides whether `_source` is the stored record as long as
every value of the answer that is the stored one is written as the record was, and none is unless
`_source` is. -/
theorem survives_iff_written_as_stored
    {ctx : ScenarioContext} {response : Response} {members : Json.Members} {source : Json}
    (hdeclared : ctx.declared = scenario.toDeclaration)
    (hok : response.ok = true)
    (hbody : response.object = .ok members)
    (hsource : OrderedMap.lookup members "_source" = some source) :
    (∀ before, ∃ events result after,
      (scenario.half .postUpgrade ctx).Runs before events result after ∧
      exchanges events = [⟨readRequest, .ok response⟩]) ∧
    Nonempty (Spelling response.body.toList (.object members)) ∧
    ∀ (spelling : Spelling response.body.toList (.object members))
      (before after : Session) (events : List Event) (result : Except Failure Unit),
      (scenario.half .postUpgrade ctx).Runs before events result after →
      exchanges events = [⟨readRequest, .ok response⟩] →
        (result = .ok () ↔ ⟨record.toList, stored⟩ ∈ spelling.parts) ∧
        (result = .ok () ∨ result = .error (.assertion (lossMessage response))) ∧
        ((∀ part ∈ spelling.parts, part.value = stored →
            part.text = record.toList ∧ source = stored) →
          (result = .ok () ↔ source = stored)) := by
  have hdecoded : Json.decode response.body = .ok (.object members) := by
    rcases Response.object_eq_ok_iff.mp hbody with ⟨_, rfl⟩ | hdecoded
    · cases hsource
    · exact hdecoded
  refine ⟨fun before => ?_, exists_spelling_of_decode hdecoded,
    fun spelling before after events result hrun hexchanges => ?_⟩
  · exact ⟨_, _, _, (runs_postUpgrade_iff hdeclared).mpr ⟨.ok response, rfl, rfl, rfl⟩, rfl⟩
  · obtain ⟨answer, rfl, rfl, rfl⟩ := (runs_postUpgrade_iff hdeclared).mp hrun
    cases hexchanges
    rw [outcomeOf_of_ok hok]
    have hfound : check (Text.contains response.body record) (lossMessage response) = .ok () ↔
        ⟨record.toList, stored⟩ ∈ spelling.parts :=
      check_eq_ok_iff.trans (contains_record_iff spelling)
    refine ⟨hfound, ?_, fun honly => hfound.trans ⟨fun hpart => ?_, fun hstored => ?_⟩⟩
    · unfold check
      split
      · exact Or.inl rfl
      · exact Or.inr rfl
    · exact (honly _ hpart rfl).2
    · obtain ⟨written, hwritten⟩ :=
        spelling.exists_mem_of_member (OrderedMap.mem_of_lookup_eq_some hsource)
      obtain ⟨htext, _⟩ := honly _ hwritten hstored
      cases htext
      exact hstored ▸ hwritten

/-- The scenario after the upgrade, with the capabilities built in. -/
def standardContext : ScenarioContext where
  config := ⟨.postUpgrade, ⟨6, 3, 2, 99⟩, none⟩
  harness :=
    ⟨Capability.standard, .string Harness.standardAssistancePath, Harness.standardUpgradePath, 1⟩
  declared := scenario.toDeclaration

/-- An answer with success and members that are written as given. -/
def answerWith (members : List (String × List Char)) : Response :=
  ⟨200, String.ofList (objectText members)⟩

/-- The record was changed, and the answer shows what it was before. -/
def elsewhere : Response :=
  answerWith [("_source", plainObject "test".toList "other".toList), ("_previous", record.toList)]

/-- The record was not changed, but it is written with a space. -/
def respelled : Response :=
  answerWith [("_source", "\x7b\"test\": \"test\"\x7d".toList)]

/-- Nothing but the record, as it was stored. -/
def unchanged : Response :=
  answerWith [("_source", record.toList)]

/-- How an answer with nothing but the record is written. -/
def unchangedSpelling :
    Spelling unchanged.body.toList (.object [("_source", stored)]) where
  lead := []
  written := objectText [("_source", record.toList)]
  trail := []
  parts :=
    [⟨objectText [("_source", record.toList)], .object [("_source", stored)]⟩,
      ⟨record.toList, stored⟩, ⟨plainString "test".toList, .string "test"⟩]
  lead_isSpaces := isSpaces_nil
  trail_isSpaces := isSpaces_nil
  text_eq := String.toList_ofList.trans (List.append_nil _).symm
  spells := by
    have htest : IsContent "test".toList "test" := ⟨0, [], 0, 5, rfl⟩
    have hsource : IsContent "_source".toList "_source" := ⟨0, [], 0, 8, rfl⟩
    have hspaces := isSpaces_nil
    have hmember := Spells.member htest hspaces hspaces (.string htest)
    have hrecord : Spells (.one (.item stored)) record.toList _ :=
      @Spells.object [("test", .string "test")] _ _ (.last hspaces hspaces hmember)
    have hwhole := Spells.member hsource hspaces hspaces hrecord
    exact @Spells.object [("_source", stored)] _ _ (.last hspaces hspaces hwhole)

/-- The stored record is the only member, under the name of the source. -/
def isSourceAlone : Json.Members → Bool
  | [(name, value)] => name == "_source" && isStored value
  | _ => false

theorem object_unchanged :
    unchanged.object = .ok [("_source", stored)] := by
  have halone : holdsObject isSourceAlone (objectText [("_source", record.toList)]) = true := by
    decide +kernel
  obtain ⟨members, hobject, htest⟩ :=
    exists_object_of_chars 200 isSourceAlone (List.cons_ne_nil _ _) halone
  unfold isSourceAlone at htest
  split at htest
  · rw [Bool.and_eq_true, beq_iff_eq, isStored_iff] at htest
    obtain ⟨rfl, rfl⟩ := htest
    exact hobject
  · cases htest

/-- The half succeeds on the record, which is written as it was and stands nowhere else. -/
theorem survives_in_unchanged :
    ∃ events after,
      (scenario.half .postUpgrade standardContext).Runs {} events (.ok ()) after ∧
      exchanges events = [⟨readRequest, .ok unchanged⟩] ∧
      ⟨record.toList, stored⟩ ∈ unchangedSpelling.parts := by
  obtain ⟨hexists, _, hdecides⟩ :=
    @survives_iff_written_as_stored standardContext unchanged _ _ rfl rfl object_unchanged rfl
  obtain ⟨events, result, after, hrun, hexchanges⟩ := hexists {}
  obtain ⟨hfound, _, hsource⟩ := hdecides unchangedSpelling _ _ _ _ hrun hexchanges
  have honly : ∀ part ∈ unchangedSpelling.parts, part.value = stored →
      part.text = record.toList ∧ stored = stored := by
    intro part hpart hvalue
    simp only [unchangedSpelling, List.mem_cons, List.not_mem_nil, or_false] at hpart
    rcases hpart with rfl | rfl | rfl
    · simp [stored] at hvalue
    · exact ⟨rfl, rfl⟩
    · simp [stored] at hvalue
  have hok := (hsource honly).mpr rfl
  exact ⟨events, after, hok ▸ hrun, hexchanges, hfound.mp hok⟩

/-- What the source of an answer is, and how the half ends on the answer. -/
theorem exists_run_of_answerWith
    (response : Response)
    (written : List (String × List Char))
    (hresponse : response = answerWith written)
    (test : Json → Bool)
    (hholds : holdsObject (fun members => (OrderedMap.lookup members "_source").any test)
      (objectText written) = true) :
    ∃ members source events after,
      response.object = .ok members ∧
      OrderedMap.lookup members "_source" = some source ∧
      test source = true ∧
      (scenario.half .postUpgrade standardContext).Runs {} events
        (check (Text.contains response.body record) (lossMessage response)) after ∧
      exchanges events = [⟨readRequest, .ok response⟩] := by
  subst hresponse
  obtain ⟨members, hobject, htest⟩ :=
    exists_object_of_chars 200 _ (List.cons_ne_nil _ _) hholds
  obtain ⟨source, hsource, hpassed⟩ := (Option.any_eq_true _ _).mp htest
  exact ⟨members, source, _, {}, hobject, hsource, hpassed,
    (runs_postUpgrade_iff rfl).mpr ⟨.ok (answerWith written), rfl, rfl, rfl⟩, rfl⟩

/-- The half succeeds although the record was changed, and it fails although it was not. -/
theorem misjudges_elsewhere_and_respelled :
    (∃ members source events after,
      elsewhere.object = .ok members ∧
      OrderedMap.lookup members "_source" = some source ∧
      source ≠ stored ∧
      (scenario.half .postUpgrade standardContext).Runs {} events (.ok ()) after ∧
      exchanges events = [⟨readRequest, .ok elsewhere⟩]) ∧
    ∃ members events after,
      respelled.object = .ok members ∧
      OrderedMap.lookup members "_source" = some stored ∧
      (scenario.half .postUpgrade standardContext).Runs {} events
        (.error (.assertion (lossMessage respelled))) after ∧
      exchanges events = [⟨readRequest, .ok respelled⟩] := by
  have hfound : Text.contains elsewhere.body record = true := by
    decide +kernel
  have hlost : Text.contains respelled.body record = false := by
    decide +kernel
  constructor
  · obtain ⟨members, source, events, after, hobject, hsource, hother, hrun, hexchanges⟩ :=
      exists_run_of_answerWith elsewhere _ rfl (fun source => !isStored source) (by decide +kernel)
    have hchanged : source ≠ stored := by
      rintro rfl
      cases hother
    rw [check_eq_ok_iff.mpr hfound] at hrun
    exact ⟨members, source, events, after, hobject, hsource, hchanged, hrun, hexchanges⟩
  · obtain ⟨members, source, events, after, hobject, hsource, hsame, hrun, hexchanges⟩ :=
      exists_run_of_answerWith respelled _ rfl isStored (by decide +kernel)
    obtain rfl := isStored_iff.mp hsame
    rw [hlost] at hrun
    exact ⟨members, events, after, hobject, hsource, hrun, hexchanges⟩

end RestartCheck.SingleRecord
