import RestartCheck.Effect.Procedure

/-!
# What events show

The exchanges with the service that a list of events contains, the times waited for, and the clock
readings.

A list of exchanges *shows* a list of stages when it contains, in the order of the stages, one
exchange that meets each of them.  Exchanges in between do not matter, so what a part of a run shows
is shown by the whole run.

Events of a kind are *followed* as required when the events behind each of them meet a requirement.

**Results.**
* `exchanges_append`, `sleeps_append`, `readings_append`: events are read part by part.
* `Shows.append`: parts that follow on one another show their stages one after the other.
* `eq_of_first`, `eq_of_only`: an exchange is the first, or the only one, of its kind at one place.
* `Followed.append`: what follows on the events of parts that follow on one another.
-/

namespace RestartCheck

/-- A request and its answer. -/
structure Exchange where
  request : Request
  answer : Except Failure Response

namespace Event

/-- The exchange with the service that an event stands for, if it does. -/
def exchange? : Event → Option Exchange
  | ⟨.call request, answer⟩ => some ⟨request, answer⟩
  | _ => none

/-- The time that an event waits for, if it waits. -/
def pause? (event : Event) : Option Float :=
  match event.query with
  | .sleep seconds => some seconds
  | _ => none

/-- The clock reading that an event stands for, if it is one. -/
def reading? : Event → Option Float
  | ⟨.now, reading⟩ => some reading
  | _ => none

end Event

namespace Trace

/-- The exchanges with the service, in order. -/
def exchanges (events : List Event) : List Exchange :=
  events.filterMap Event.exchange?

/-- The times waited for, in order. -/
def sleeps (events : List Event) : List Float :=
  events.filterMap Event.pause?

/-- The clock readings, in order. -/
def readings (events : List Event) : List Float :=
  events.filterMap Event.reading?

@[simp] theorem exchanges_nil : exchanges [] = [] := rfl

@[simp] theorem exchanges_append
    (front back : List Event) :
    exchanges (front ++ back) = exchanges front ++ exchanges back :=
  List.filterMap_append

@[simp] theorem exchanges_call_cons
    (request : Request)
    (answer : Except Failure Response)
    (rest : List Event) :
    exchanges (⟨.call request, answer⟩ :: rest) = ⟨request, answer⟩ :: exchanges rest :=
  rfl

@[simp] theorem sleeps_append
    (front back : List Event) :
    sleeps (front ++ back) = sleeps front ++ sleeps back :=
  List.filterMap_append

@[simp] theorem readings_append
    (front back : List Event) :
    readings (front ++ back) = readings front ++ readings back :=
  List.filterMap_append

/-! ## Stages -/

/-- The exchanges contain, in this order, one that meets each stage. -/
def Shows :
    List (Exchange → Prop) → List Exchange → Prop
  | [], _ => True
  | stage :: rest, exchanges =>
      ∃ front exchange back,
        exchanges = front ++ exchange :: back ∧ stage exchange ∧ Shows rest back

section Stages

variable {stage : Exchange → Prop} {stages more : List (Exchange → Prop)}
  {front back : List Exchange} {exchange : Exchange}

theorem Shows.of_suffix
    (hshows : Shows stages back) :
    Shows stages (front ++ back) := by
  cases stages with
  | nil => trivial
  | cons stage rest =>
      obtain ⟨before, exchange, after, rfl, hstage, hrest⟩ := hshows
      exact ⟨front ++ before, exchange, after, (List.append_assoc _ _ _).symm, hstage, hrest⟩

theorem Shows.append
    (hfront : Shows stages front)
    (hback : Shows more back) :
    Shows (stages ++ more) (front ++ back) := by
  -- The stages are used up one by one, together with the exchanges up to the one that meets each.
  induction stages generalizing front with
  | nil => exact hback.of_suffix
  | cons stage rest ih =>
      obtain ⟨before, exchange, after, rfl, hstage, hrest⟩ := hfront
      refine ⟨before, exchange, after ++ back, ?_, hstage, ih hrest⟩
      rw [List.append_assoc, List.cons_append]

theorem Shows.of_prefix
    (hshows : Shows stages front) :
    Shows stages (front ++ back) := by
  have happend : Shows (stages ++ []) (front ++ back) := hshows.append trivial
  rwa [List.append_nil] at happend

theorem Shows.cons
    (hstage : stage exchange)
    (hrest : Shows stages back) :
    Shows (stage :: stages) (exchange :: back) :=
  ⟨[], exchange, back, rfl, hstage, hrest⟩

theorem shows_singleton_iff :
    Shows [stage] front ↔ ∃ exchange ∈ front, stage exchange := by
  constructor
  · rintro ⟨before, exchange, after, rfl, hstage, _⟩
    exact ⟨exchange, by simp, hstage⟩
  · rintro ⟨exchange, hmem, hstage⟩
    obtain ⟨before, after, rfl⟩ := List.append_of_mem hmem
    exact ⟨before, exchange, after, rfl, hstage, trivial⟩

end Stages

/-- Two places at which an exchange is the first of its kind are the same. -/
theorem eq_of_first
    {kind : Exchange → Prop} {front front' back back' : List Exchange}
    {exchange exchange' : Exchange}
    (heq : front ++ exchange :: back = front' ++ exchange' :: back')
    (hfront : ∀ other ∈ front, ¬kind other)
    (hfront' : ∀ other ∈ front', ¬kind other)
    (hkind : kind exchange)
    (hkind' : kind exchange') :
    exchange = exchange' ∧ back = back' := by
  rcases List.append_eq_append_iff.mp heq with ⟨between, rfl, hback⟩ | ⟨between, rfl, hback⟩
  · cases between with
    | nil =>
        rw [List.nil_append, List.cons.injEq] at hback
        exact hback
    | cons first rest =>
        rw [List.cons_append, List.cons.injEq] at hback
        obtain ⟨rfl, _⟩ := hback
        exact absurd hkind (hfront' exchange (by simp))
  · cases between with
    | nil =>
        rw [List.nil_append, List.cons.injEq] at hback
        exact ⟨hback.1.symm, hback.2.symm⟩
    | cons first rest =>
        rw [List.cons_append, List.cons.injEq] at hback
        obtain ⟨rfl, _⟩ := hback
        exact absurd hkind' (hfront exchange' (by simp))

/-- An exchange of a kind stands at the place of the only one of its kind. -/
theorem eq_of_only
    {kind : Exchange → Prop} {front front' back back' : List Exchange}
    {exchange exchange' : Exchange}
    (heq : front ++ exchange :: back = front' ++ exchange' :: back')
    (hkind : kind exchange)
    (hfront' : ∀ other ∈ front', ¬kind other)
    (hback' : ∀ other ∈ back', ¬kind other) :
    front = front' ∧ exchange = exchange' ∧ back = back' := by
  rcases List.append_eq_append_iff.mp heq with ⟨between, rfl, hback⟩ | ⟨between, rfl, hback⟩
  · cases between with
    | nil =>
        rw [List.nil_append, List.cons.injEq] at hback
        exact ⟨(List.append_nil _).symm, hback⟩
    | cons first rest =>
        rw [List.cons_append, List.cons.injEq] at hback
        obtain ⟨rfl, _⟩ := hback
        exact absurd hkind (hfront' exchange (by simp))
  · cases between with
    | nil =>
        rw [List.nil_append, List.cons.injEq] at hback
        exact ⟨List.append_nil _, hback.1.symm, hback.2.symm⟩
    | cons first rest =>
        rw [List.cons_append, List.cons.injEq] at hback
        obtain ⟨_, rfl⟩ := hback
        exact absurd hkind (hback' exchange (by simp))

/-! ## What follows on an event -/

/-- Behind every event of the kind the rest of the events is as required. -/
def Followed
    (kind : Event → Prop)
    (required : List Event → Prop) :
    List Event → Prop
  | [] => True
  | event :: rest => (kind event → required rest) ∧ Followed kind required rest

instance decidableFollowed
    (kind : Event → Prop) [DecidablePred kind]
    (required : List Event → Prop) [DecidablePred required] :
    DecidablePred (Followed kind required)
  | [] => .isTrue trivial
  | _ :: rest =>
      have := decidableFollowed kind required rest
      inferInstanceAs (Decidable ((_ → _) ∧ _))

section Followed

variable {kind : Event → Prop} {required earlier : List Event → Prop} {front back : List Event}

theorem followed_of_forall_not
    (hnone : ∀ event ∈ front, ¬kind event) :
    Followed kind required front := by
  induction front with
  | nil => trivial
  | cons event rest ih =>
      rw [List.forall_mem_cons] at hnone
      exact ⟨fun hkind => absurd hkind hnone.1, ih hnone.2⟩

/-- What follows in the first part is followed by the second part. -/
theorem Followed.append
    (hfront : Followed kind earlier front)
    (hearlier : ∀ rest, earlier rest → required (rest ++ back))
    (hback : Followed kind required back) :
    Followed kind required (front ++ back) := by
  induction front with
  | nil => exact hback
  | cons event rest ih => exact ⟨fun hkind => hearlier rest (hfront.1 hkind), ih hfront.2⟩

theorem Followed.mono
    (hfront : Followed kind earlier front)
    (hearlier : ∀ rest, earlier rest → required rest) :
    Followed kind required front := by
  have happend : Followed kind required (front ++ []) :=
    hfront.append (fun rest hrest => by simpa using hearlier rest hrest) trivial
  rwa [List.append_nil] at happend

end Followed

end Trace
end RestartCheck
