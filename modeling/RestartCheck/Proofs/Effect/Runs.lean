import RestartCheck.Effect.Action

/-!
# Runs of actions

An action that is started with a memory asks its surroundings some questions and ends with a value
or a failure, and with a memory.  A *run* lists these questions with their answers.  Nothing is
assumed about the answers, so what holds of every run holds whatever the service does.

The rules of this file take a run of a composed action apart into runs of its parts, and put it
together again.

**Results.**
* `Action.runs_bind_iff`: in a sequence either the first part fails and the second is never begun,
  or the second part starts from the memory in which the first succeeded.
* `Action.runs_attempt_iff`: an attempt has the runs of the action that it attempts, and it always
  succeeds.
* `Action.runs_noteShowing_iff`: an entry that shows a value may be refused.
* `Action.runs_within_iff`: bound context is restored however the action ends.
-/

namespace RestartCheck

/-- A run of a procedure that begins with a question. -/
theorem Procedure.runs_query_bind_iff
    {α : Type} {question : Query} {next : question.Answer → Procedure α} {events : List Event}
    {value : α} :
    (Procedure.query question >>= next).Runs events value ↔
      ∃ answer rest, events = ⟨question, answer⟩ :: rest ∧ (next answer).Runs rest value :=
  Procedure.runs_ask_iff

namespace Action

variable {α β : Type}

/-- The action, started with the memory `before`, can pass through the events and end with the
result and the memory `after`. -/
def Runs
    (action : Action α)
    (before : Session)
    (events : List Event)
    (result : Except Failure α)
    (after : Session) : Prop :=
  (action.start before).Runs events (result, after)

/-- The failure of a result, if it is one. -/
def failure? : Except Failure α → Option Failure
  | .ok _ => none
  | .error failure => some failure

theorem failure?_eq_some_iff
    {result : Except Failure α} {failure : Failure} :
    failure? result = some failure ↔ result = .error failure := by
  cases result with
  | ok value => simp [failure?]
  | error known => simp [failure?]

section Rules

variable {before after : Session} {events : List Event}

/-- What follows on a result: the rest of a sequence, or nothing after a failure. -/
def continueWith
    (next : α → Action β) :
    Except Failure α × Session → Procedure (Except Failure β × Session)
  | (.ok value, session) => (next value).start session
  | (.error failure, session) => .done (.error failure, session)

theorem start_bind
    (action : Action α)
    (next : α → Action β)
    (before : Session) :
    (action >>= next).start before =
      (action.start before).bind (continueWith next) := by
  have hcont :
      (fun step : Except Failure α × Session =>
        (StateT.run (ExceptT.run
          (ExceptT.mk (ExceptT.bindCont next step.1))) step.2 :
            Procedure (Except Failure β × Session))) =
        continueWith next := by
    funext step
    obtain ⟨result, session⟩ := step
    cases result with
    | ok value => rfl
    | error failure => rfl
  rw [← hcont]
  rfl

/-- A run of a sequence. -/
theorem runs_bind_iff
    {action : Action α} {next : α → Action β}
    {result : Except Failure β} :
    (action >>= next).Runs before events result after ↔
      (∃ value middle front back,
        events = front ++ back ∧
        action.Runs before front (.ok value) middle ∧
        (next value).Runs middle back result after)
      ∨
      (∃ failure,
        result = .error failure ∧
        action.Runs before events (.error failure) after) := by
  unfold Runs
  rw [start_bind, Procedure.runs_bind_iff]
  constructor
  · rintro ⟨front, back, ⟨outcome, middle⟩, rfl, hfront, hback⟩
    cases outcome with
    | ok value =>
        exact Or.inl ⟨value, middle, front, back, rfl, hfront, hback⟩
    | error failure =>
        obtain ⟨rfl, hend⟩ := Procedure.runs_done_iff.mp hback
        cases hend
        refine Or.inr ⟨failure, rfl, ?_⟩
        rwa [List.append_nil]
  · rintro (⟨value, middle, front, back, rfl, hfront, hback⟩ | ⟨failure, rfl, hrun⟩)
    · exact ⟨front, back, (.ok value, middle), rfl, hfront, hback⟩
    · exact ⟨events, [], (.error failure, after), (List.append_nil _).symm, hrun, .done _⟩

/-- A run of a sequence that succeeds. -/
theorem runs_bind_ok_iff
    {action : Action α} {next : α → Action β} {value : β} :
    (action >>= next).Runs before events (.ok value) after ↔
      ∃ first middle front back,
        events = front ++ back ∧
        action.Runs before front (.ok first) middle ∧
        (next first).Runs middle back (.ok value) after := by
  rw [runs_bind_iff]
  constructor
  · rintro (h | ⟨failure, h, _⟩)
    · exact h
    · cases h
  · exact Or.inl

/-- Two sequences that go on alike from every end of their first part have the same runs. -/
theorem runs_bind_congr
    {action : Action α} {next other : α → Action β} {result : Except Failure β}
    (hnext : ∀ {value first front middle back},
      action.Runs first front (.ok value) middle →
        ((next value).Runs middle back result after ↔
          (other value).Runs middle back result after)) :
    (action >>= next).Runs before events result after ↔
      (action >>= other).Runs before events result after := by
  rw [runs_bind_iff, runs_bind_iff]
  refine or_congr_left (exists_congr fun value => exists_congr fun middle => ?_)
  refine exists_congr fun front => exists_congr fun back => and_congr_right fun _ => ?_
  exact and_congr_right fun haction => hnext haction

@[simp] theorem runs_pure_iff
    {value : α} {result : Except Failure α} :
    (pure value : Action α).Runs before events result after ↔
      events = [] ∧ result = .ok value ∧ after = before := by
  change Procedure.Runs (.done (.ok value, before)) events (result, after) ↔ _
  rw [Procedure.runs_done_iff, Prod.mk.injEq]

@[simp] theorem runs_ofExcept_iff
    {known result : Except Failure α} :
    (ofExcept known).Runs before events result after ↔
      events = [] ∧ result = known ∧ after = before := by
  change Procedure.Runs (.done (known, before)) events (result, after) ↔ _
  rw [Procedure.runs_done_iff, Prod.mk.injEq]

@[simp] theorem runs_liftM_iff
    {known result : Except Failure α} :
    (liftM known : Action α).Runs before events result after ↔
      events = [] ∧ result = known ∧ after = before :=
  runs_ofExcept_iff

@[simp] theorem runs_fail_iff
    {failure : Failure} {result : Except Failure α} :
    (fail failure : Action α).Runs before events result after ↔
      events = [] ∧ result = .error failure ∧ after = before :=
  runs_ofExcept_iff

/-- Nothing of a sequence is begun after a failure. -/
theorem runs_fail_bind_iff
    {failure : Failure} {next : α → Action β} {result : Except Failure β} :
    (fail failure >>= next).Runs before events result after ↔
      events = [] ∧ result = .error failure ∧ after = before := by
  rw [runs_bind_iff]
  simp only [runs_fail_iff]
  constructor
  · rintro (⟨_, _, _, _, _, ⟨_, h, _⟩, _⟩ | ⟨failure, rfl, rfl, h, rfl⟩)
    · cases h
    · cases h
      exact ⟨rfl, rfl, rfl⟩
  · rintro ⟨rfl, rfl, rfl⟩
    exact Or.inr ⟨failure, rfl, rfl, rfl, rfl⟩

/-- A run that succeeds has passed its guard. -/
theorem runs_guard_ok_iff
    {condition : Prop} [Decidable condition] {failure : Failure} {next : α → Action β}
    {action : Action β} {value : β} :
    (if condition then fail failure >>= next else action).Runs before events (.ok value) after ↔
      ¬condition ∧ action.Runs before events (.ok value) after := by
  by_cases hcondition : condition
  · rw [if_pos hcondition, runs_fail_bind_iff]
    simp [hcondition]
  · rw [if_neg hcondition]
    simp [hcondition]

@[simp] theorem not_runs_stuck
    {result : Except Failure α} :
    ¬(stuck : Action α).Runs before events result after :=
  Procedure.not_runs_stuck

/-- A run of a known result followed by an action that depends on it. -/
theorem runs_liftM_bind_iff
    {known : Except Failure α} {next : α → Action β} {result : Except Failure β} :
    (liftM known >>= next : Action β).Runs before events result after ↔
      (∃ value, known = .ok value ∧ (next value).Runs before events result after)
      ∨
      (∃ failure,
        known = .error failure ∧ events = [] ∧ result = .error failure ∧ after = before) := by
  rw [runs_bind_iff]
  simp only [runs_liftM_iff]
  constructor
  · rintro (⟨value, middle, front, back, rfl, ⟨rfl, hknown, rfl⟩, hback⟩ |
      ⟨failure, rfl, rfl, hknown, rfl⟩)
    · exact Or.inl ⟨value, hknown.symm, hback⟩
    · exact Or.inr ⟨failure, hknown.symm, rfl, rfl, rfl⟩
  · rintro (⟨value, rfl, hrun⟩ | ⟨failure, rfl, rfl, rfl, rfl⟩)
    · exact Or.inl ⟨value, before, [], events, rfl, ⟨rfl, rfl, rfl⟩, hrun⟩
    · exact Or.inr ⟨failure, rfl, rfl, rfl, rfl⟩

theorem runs_liftM_bind_ok_iff
    {known : Except Failure α} {next : α → Action β} {value : β} :
    (liftM known >>= next : Action β).Runs before events (.ok value) after ↔
      ∃ first, known = .ok first ∧ (next first).Runs before events (.ok value) after := by
  rw [runs_liftM_bind_iff]
  constructor
  · rintro (hrun | ⟨failure, _, _, hresult, _⟩)
    · exact hrun
    · cases hresult
  · exact Or.inl

theorem runs_query_iff
    {question : Query} {result : Except Failure question.Answer} :
    (query question).Runs before events result after ↔
      ∃ answer, events = [⟨question, answer⟩] ∧ result = .ok answer ∧ after = before := by
  change Procedure.Runs (.ask question fun answer => .done (.ok answer, before)) events
    (result, after) ↔ _
  rw [Procedure.runs_ask_iff]
  simp only [Procedure.runs_done_iff, Prod.mk.injEq]
  constructor
  · rintro ⟨answer, rest, rfl, rfl, rfl, rfl⟩
    exact ⟨answer, rfl, rfl, rfl⟩
  · rintro ⟨answer, rfl, rfl, rfl⟩
    exact ⟨answer, [], rfl, rfl, rfl, rfl⟩

/-- A run that begins with a question. -/
theorem runs_query_bind_iff
    {question : Query} {next : question.Answer → Action β} {result : Except Failure β} :
    (query question >>= next).Runs before events result after ↔
      ∃ answer rest,
        events = ⟨question, answer⟩ :: rest ∧ (next answer).Runs before rest result after := by
  rw [runs_bind_iff]
  constructor
  · rintro (⟨answer, middle, front, back, rfl, hquery, hback⟩ | ⟨failure, rfl, hquery⟩)
    · obtain ⟨_, rfl, hanswer, rfl⟩ := runs_query_iff.mp hquery
      cases hanswer
      exact ⟨answer, back, rfl, hback⟩
    · obtain ⟨_, _, hanswer, _⟩ := runs_query_iff.mp hquery
      cases hanswer
  · rintro ⟨answer, rest, rfl, hrun⟩
    exact Or.inl
      ⟨answer, before, [_], rest, rfl, runs_query_iff.mpr ⟨answer, rfl, rfl, rfl⟩, hrun⟩

/-- A request is one question, and its answer is the result. -/
theorem runs_call_iff
    {request : Request} {result : Except Failure Response} :
    (call request).Runs before events result after ↔
      events = [⟨.call request, result⟩] ∧ after = before := by
  unfold call
  rw [runs_bind_iff]
  constructor
  · rintro (⟨answer, middle, front, back, rfl, hquery, hend⟩ | ⟨failure, rfl, hquery⟩)
    · obtain ⟨answer', rfl, hanswer, rfl⟩ := runs_query_iff.mp hquery
      cases hanswer
      obtain ⟨rfl, rfl, rfl⟩ := runs_ofExcept_iff.mp hend
      exact ⟨rfl, rfl⟩
    · obtain ⟨answer, _, hanswer, _⟩ := runs_query_iff.mp hquery
      cases hanswer
  · rintro ⟨rfl, rfl⟩
    exact Or.inl
      ⟨result, after, [⟨.call request, result⟩], [], rfl,
        runs_query_iff.mpr ⟨result, rfl, rfl, rfl⟩, runs_ofExcept_iff.mpr ⟨rfl, rfl, rfl⟩⟩

/-- A run that begins with a request. -/
theorem runs_call_bind_iff
    {request : Request} {next : Response → Action β} {result : Except Failure β} :
    (call request >>= next).Runs before events result after ↔
      (∃ response rest,
        events = ⟨.call request, .ok response⟩ :: rest ∧
        (next response).Runs before rest result after)
      ∨
      (∃ failure,
        events = [⟨.call request, .error failure⟩] ∧ result = .error failure ∧ after = before) := by
  rw [runs_bind_iff]
  simp only [runs_call_iff]
  constructor
  · rintro (⟨response, middle, front, back, rfl, ⟨rfl, rfl⟩, hback⟩ |
      ⟨failure, rfl, rfl, rfl⟩)
    · exact Or.inl ⟨response, back, rfl, hback⟩
    · exact Or.inr ⟨failure, rfl, rfl, rfl⟩
  · rintro (⟨response, rest, rfl, hrest⟩ | ⟨failure, rfl, rfl, rfl⟩)
    · exact Or.inl ⟨response, before, [_], rest, rfl, ⟨rfl, rfl⟩, hrest⟩
    · exact Or.inr ⟨failure, rfl, rfl, rfl⟩

theorem runs_call_bind_ok_iff
    {request : Request} {next : Response → Action β} {value : β} :
    (call request >>= next).Runs before events (.ok value) after ↔
      ∃ response rest,
        events = ⟨.call request, .ok response⟩ :: rest ∧
        (next response).Runs before rest (.ok value) after := by
  rw [runs_call_bind_iff]
  constructor
  · rintro (hrun | ⟨failure, _, hresult, _⟩)
    · exact hrun
    · cases hresult
  · exact Or.inl

/-- The event of writing a log entry with the given memory. -/
def noted
    (session : Session)
    (level : LogLevel)
    (event : String)
    (fields : LogFields := []) : Event :=
  ⟨.log ⟨level, .string event, fields, session.context⟩, ()⟩

theorem runs_get_iff
    {result : Except Failure Session} :
    (get : Action Session).Runs before events result after ↔
      events = [] ∧ result = .ok before ∧ after = before := by
  change Procedure.Runs (.done (.ok before, before)) events (result, after) ↔ _
  rw [Procedure.runs_done_iff, Prod.mk.injEq]

theorem runs_modify_iff
    {change : Session → Session} {result : Except Failure Unit} :
    (modify change : Action Unit).Runs before events result after ↔
      events = [] ∧ result = .ok () ∧ after = change before := by
  change Procedure.Runs (.done (.ok (), change before)) events (result, after) ↔ _
  rw [Procedure.runs_done_iff, Prod.mk.injEq]

/-- A run that begins by looking at the memory. -/
theorem runs_get_bind_iff
    {next : Session → Action β} {result : Except Failure β} :
    (get >>= next : Action β).Runs before events result after ↔
      (next before).Runs before events result after := by
  rw [runs_bind_iff]
  simp only [runs_get_iff]
  constructor
  · rintro (⟨value, middle, front, back, rfl, ⟨rfl, hvalue, rfl⟩, hback⟩ | ⟨failure, _, _, h, _⟩)
    · cases hvalue
      exact hback
    · cases h
  · intro hrun
    exact Or.inl ⟨before, before, [], events, rfl, ⟨rfl, rfl, rfl⟩, hrun⟩

/-- A run that begins by changing the memory. -/
theorem runs_modify_bind_iff
    {change : Session → Session} {next : Unit → Action β} {result : Except Failure β} :
    (modify change >>= next : Action β).Runs before events result after ↔
      (next ()).Runs (change before) events result after := by
  rw [runs_bind_iff]
  simp only [runs_modify_iff]
  constructor
  · rintro (⟨value, middle, front, back, rfl, ⟨rfl, _, rfl⟩, hback⟩ | ⟨failure, _, _, h, _⟩)
    · exact hback
    · cases h
  · intro hrun
    exact Or.inl ⟨(), change before, [], events, rfl, ⟨rfl, trivial, rfl⟩, hrun⟩

/-- Writing a log entry never fails. -/
@[simp] theorem runs_note_iff
    {level : LogLevel} {event : String} {fields : LogFields} {result : Except Failure Unit} :
    (note level event fields).Runs before events result after ↔
      events = [noted before level event fields] ∧ result = .ok () ∧ after = before := by
  unfold note
  rw [runs_get_bind_iff, runs_query_iff]
  constructor
  · rintro ⟨_, rfl, rfl, rfl⟩
    exact ⟨rfl, rfl, rfl⟩
  · rintro ⟨rfl, rfl, rfl⟩
    exact ⟨(), rfl, rfl, rfl⟩

/-- A run that begins with a log entry. -/
theorem runs_note_bind_iff
    {level : LogLevel} {event : String} {fields : LogFields}
    {next : Unit → Action β} {result : Except Failure β} :
    (note level event fields >>= next).Runs before events result after ↔
      ∃ rest, events = noted before level event fields :: rest ∧
        (next ()).Runs before rest result after := by
  rw [runs_bind_iff]
  simp only [runs_note_iff]
  constructor
  · rintro (⟨_, middle, front, back, rfl, ⟨rfl, _, rfl⟩, hback⟩ | ⟨failure, _, _, h, _⟩)
    · exact ⟨back, rfl, hback⟩
    · cases h
  · rintro ⟨rest, rfl, hrun⟩
    exact Or.inl ⟨(), before, [_], rest, rfl, ⟨rfl, trivial, rfl⟩, hrun⟩

/-- An entry that shows a value is written, unless the value cannot be. -/
theorem runs_noteShowing_iff
    {level : LogLevel} {event : String} {fields : LogFields} {name : String} {value : Observed}
    {result : Except Failure Unit} :
    (noteShowing level event fields name value).Runs before events result after ↔
      (before.obstacle? level value = none ∧
        events = [noted before level event (fields ++ [(name, value)])] ∧
        result = .ok () ∧ after = before)
      ∨
      (∃ obstacle,
        before.obstacle? level value = some obstacle ∧
        events = [] ∧ result = .error (.defect (.ofObstacle obstacle)) ∧ after = before) := by
  unfold noteShowing
  rw [runs_get_bind_iff]
  cases before.obstacle? level value with
  | none => simp
  | some obstacle => simp

/-- A run that begins with an entry that shows a value. -/
theorem runs_noteShowing_bind_iff
    {level : LogLevel} {event : String} {fields : LogFields} {name : String} {value : Observed}
    {next : Unit → Action β} {result : Except Failure β} :
    (noteShowing level event fields name value >>= next).Runs before events result after ↔
      (before.obstacle? level value = none ∧
        ∃ rest,
          events = noted before level event (fields ++ [(name, value)]) :: rest ∧
          (next ()).Runs before rest result after)
      ∨
      (∃ obstacle,
        before.obstacle? level value = some obstacle ∧
        events = [] ∧ result = .error (.defect (.ofObstacle obstacle)) ∧ after = before) := by
  rw [runs_bind_iff]
  simp only [runs_noteShowing_iff]
  constructor
  · rintro (⟨_, middle, front, back, rfl, (⟨hwritten, rfl, _, rfl⟩ | ⟨_, _, _, h, _⟩), hback⟩ |
      ⟨failure, rfl, (⟨_, _, h, _⟩ | ⟨obstacle, hrefused, rfl, hfailed, rfl⟩)⟩)
    · exact Or.inl ⟨hwritten, back, rfl, hback⟩
    · cases h
    · cases h
    · cases hfailed
      exact Or.inr ⟨obstacle, hrefused, rfl, rfl, rfl⟩
  · rintro (⟨hwritten, rest, rfl, hrest⟩ | ⟨obstacle, hrefused, rfl, rfl, rfl⟩)
    · exact Or.inl ⟨(), before, [_], rest, rfl, Or.inl ⟨hwritten, rfl, trivial, rfl⟩, hrest⟩
    · exact Or.inr ⟨_, rfl, Or.inr ⟨obstacle, hrefused, rfl, rfl, rfl⟩⟩

/-- Entries that are written one after the other. -/
theorem runs_each_note_iff
    {ι : Type} {items : List ι} {level : LogLevel} {event : String} {fields : ι → LogFields}
    {result : Except Failure Unit} :
    (each items fun item => note level event (fields item)).Runs before events result after ↔
      events = items.map (fun item => noted before level event (fields item)) ∧
      result = .ok () ∧ after = before := by
  induction items generalizing events with
  | nil => exact runs_pure_iff
  | cons item rest ih =>
      change (note level event (fields item) >>= fun _ => each rest _).Runs _ _ _ _ ↔ _
      rw [runs_note_bind_iff]
      simp only [ih]
      constructor
      · rintro ⟨tail, rfl, rfl, rfl, rfl⟩
        exact ⟨rfl, rfl, rfl⟩
      · rintro ⟨rfl, rfl, rfl⟩
        exact ⟨_, rfl, rfl, rfl, rfl⟩

/-- An attempt has the runs of the action that it attempts, and hands over how it ended. -/
@[simp] theorem runs_attempt_iff
    {action : Action α} {result : Except Failure (Except Failure α)} :
    (attempt action).Runs before events result after ↔
      ∃ outcome, result = .ok outcome ∧ action.Runs before events outcome after := by
  unfold Runs
  rw [run_attempt]
  change Procedure.Runs ((action.start before).bind _) events (result, after) ↔ _
  rw [Procedure.runs_bind_iff]
  constructor
  · rintro ⟨front, back, ⟨outcome, session⟩, rfl, hfront, hback⟩
    obtain ⟨rfl, hend⟩ := Procedure.runs_done_iff.mp hback
    cases hend
    refine ⟨outcome, rfl, ?_⟩
    rwa [List.append_nil]
  · rintro ⟨outcome, rfl, hrun⟩
    exact ⟨events, [], (outcome, after), (List.append_nil _).symm, hrun, .done _⟩

/-- A run that begins with an attempt. -/
theorem runs_attempt_bind_iff
    {action : Action α} {next : Except Failure α → Action β} {result : Except Failure β} :
    (attempt action >>= next).Runs before events result after ↔
      ∃ outcome middle front back,
        events = front ++ back ∧
        action.Runs before front outcome middle ∧
        (next outcome).Runs middle back result after := by
  rw [runs_bind_iff]
  simp only [runs_attempt_iff]
  constructor
  · rintro (⟨outcome, middle, front, back, rfl, ⟨outcome', h, hfront⟩, hback⟩ |
      ⟨failure, _, _, h, _⟩)
    · cases h
      exact ⟨outcome, middle, front, back, rfl, hfront, hback⟩
    · cases h
  · rintro ⟨outcome, middle, front, back, rfl, hfront, hback⟩
    exact Or.inl ⟨outcome, middle, front, back, rfl, ⟨outcome, rfl, hfront⟩, hback⟩

/-- The memory with more context bound. -/
def bindContext
    (session : Session)
    (bound : LogFields) : Session :=
  { session with context := OrderedMap.update session.context bound }

/-- The memory with the context of an earlier one. -/
def restoreContext
    (session earlier : Session) : Session :=
  { session with context := earlier.context }

/-- An action under bound context runs as without it, except for the context itself, which is
restored in the end. -/
theorem runs_within_iff
    {bound : LogFields} {action : Action α} {result : Except Failure α} :
    (within bound action).Runs before events result after ↔
      ∃ inner,
        action.Runs (bindContext before bound) events result inner ∧
        after = restoreContext inner before := by
  unfold within
  rw [runs_get_bind_iff, runs_modify_bind_iff, runs_attempt_bind_iff]
  simp only [runs_modify_bind_iff, runs_ofExcept_iff]
  constructor
  · rintro ⟨outcome, inner, front, back, rfl, hrun, rfl, rfl, rfl⟩
    refine ⟨inner, ?_, rfl⟩
    rwa [List.append_nil]
  · rintro ⟨inner, hrun, rfl⟩
    exact ⟨result, inner, events, [], (List.append_nil _).symm, hrun, rfl, rfl, rfl⟩

end Rules

end Action
end RestartCheck
