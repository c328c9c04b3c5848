import RestartCheck.Service.Response
import RestartCheck.Log.Entry
import RestartCheck.Settings.Model
import RestartCheck.Files.Path

/-!
# Procedures

A procedure is a computation that asks its surroundings questions: to send a request, to read the
clock, to wait, to draw at random, to write a log entry, to read a file.  It is given as the tree of
its questions, with one branch for every answer.  Nothing is assumed about the answers, so a
statement about all runs of a procedure is a statement about every behaviour of the service.

A procedure that exhausts the number of attempts granted to a poll is `stuck`: it has no result.

**Results.**
* `Procedure.pure_bind`, `Procedure.bind_pure`, `Procedure.bind_assoc`: the monad laws.
* `Procedure.runs_bind_iff`: a run of a sequence is a run of the first part followed by a run of the
  second.
-/

namespace RestartCheck

/-- A request to the service.  A body that is a text is sent as it is. -/
structure Request where
  method : String
  path : String
  params : Option Json.Members := none
  body : Option Json := none
  contentType : String := "application/json"
deriving Inhabited

/-- What a procedure can ask for. -/
inductive Query
  /-- Send a request. -/
  | call (request : Request)
  /-- Read the clock, in seconds. -/
  | now
  /-- Wait for a number of seconds. -/
  | sleep (seconds : Float)
  /-- Draw an integer between two bounds. -/
  | drawNumber (low high : Int)
  /-- Draw characters from an alphabet. -/
  | drawLetters (alphabet : String) (count : Nat)
  /-- Write a log entry. -/
  | log (entry : LogEntry)
  /-- Choose how log entries are written from here on. -/
  | setUpLogging (settings : LoggingSettings)
  /-- Open the connection to the service. -/
  | connect (settings : ClientSettings)
  /-- Close the connection to the service. -/
  | disconnect
  /-- Find out whether a path leads to a directory. -/
  | isDirectory (path : Files.Path)
  /-- Read the file that a path leads to, if there is one. -/
  | readFile (path : Files.Path)
  /-- Find out the home directory of an account.  No name stands for the account in use. -/
  | home (account : String)

/-- The type of the answers to a query.  A request is answered or fails. -/
@[reducible]
def Query.Answer : Query → Type
  | .call _ => Except Failure Response
  | .now => Float
  | .sleep _ => Unit
  | .drawNumber _ _ => Int
  | .drawLetters _ _ => String
  | .log _ => Unit
  | .setUpLogging _ => Unit
  | .connect _ => Unit
  | .disconnect => Unit
  | .isDirectory _ => Except Files.NameTooLong Bool
  | .readFile _ => Except Files.NameTooLong (Option String)
  | .home _ => Option Files.Path

/-- A query together with its answer. -/
structure Event where
  query : Query
  answer : query.Answer

/-- A computation as the tree of its queries. -/
inductive Procedure (α : Type)
  | done (value : α)
  | ask (query : Query) (next : query.Answer → Procedure α)
  | stuck

namespace Procedure

variable {α β γ : Type}

/-- Run a second procedure on the result of the first. -/
def bind : Procedure α → (α → Procedure β) → Procedure β
  | .done value, next => next value
  | .ask query rest, next => .ask query fun answer => (rest answer).bind next
  | .stuck, _ => .stuck

instance : Monad Procedure where
  pure := .done
  bind := Procedure.bind

/-- Ask one question. -/
def query (q : Query) : Procedure q.Answer :=
  .ask q .done

@[simp] theorem pure_bind (value : α) (next : α → Procedure β) :
    (Procedure.done value).bind next = next value := rfl

@[simp] theorem bind_pure (procedure : Procedure α) : procedure.bind .done = procedure := by
  induction procedure with
  | done value => rfl
  | ask query next ih => simp only [bind, ih]
  | stuck => rfl

/-- Sequencing is associative. -/
theorem bind_assoc (procedure : Procedure α) (f : α → Procedure β) (g : β → Procedure γ) :
    (procedure.bind f).bind g = procedure.bind fun value => (f value).bind g := by
  induction procedure with
  | done value => rfl
  | ask query next ih => simp only [bind, ih]
  | stuck => rfl

instance : LawfulMonad Procedure :=
  LawfulMonad.mk' Procedure
    (fun procedure => bind_pure procedure)
    (fun value next => pure_bind value next)
    (fun procedure f g => bind_assoc procedure f g)

/-- The procedure can run through the given events and end with the given value. -/
inductive Runs : Procedure α → List Event → α → Prop
  | done (value : α) : Runs (.done value) [] value
  | ask {query : Query} {next : query.Answer → Procedure α} (answer : query.Answer)
      {events : List Event} {value : α} :
      Runs (next answer) events value → Runs (.ask query next) (⟨query, answer⟩ :: events) value

@[simp] theorem runs_done_iff {value result : α} {events : List Event} :
    Runs (.done value) events result ↔ events = [] ∧ result = value := by
  constructor
  · intro h; cases h; exact ⟨rfl, rfl⟩
  · rintro ⟨rfl, rfl⟩; exact .done _

@[simp] theorem not_runs_stuck {result : α} {events : List Event} :
    ¬Runs (.stuck : Procedure α) events result := by
  intro h; cases h

/-- A run of a query is an answer and a run of what follows it. -/
theorem runs_ask_iff {query : Query} {next : query.Answer → Procedure α} {events : List Event}
    {result : α} :
    Runs (.ask query next) events result ↔
      ∃ answer rest, events = ⟨query, answer⟩ :: rest ∧ Runs (next answer) rest result := by
  constructor
  · intro h; cases h with
    | ask answer h => exact ⟨answer, _, rfl, h⟩
  · rintro ⟨answer, rest, rfl, h⟩; exact .ask answer h

/-- A run of two procedures in a row is a run of each. -/
theorem runs_bind_iff {procedure : Procedure α} {next : α → Procedure β} {events : List Event}
    {result : β} :
    Runs (procedure.bind next) events result ↔
      ∃ front back value, events = front ++ back ∧ Runs procedure front value ∧
        Runs (next value) back result := by
  induction procedure generalizing events with
  | done value =>
    constructor
    · intro h; exact ⟨[], events, value, rfl, .done value, h⟩
    · rintro ⟨front, back, v, rfl, hfront, hback⟩
      obtain ⟨rfl, rfl⟩ := runs_done_iff.1 hfront
      exact hback
  | ask query rest ih =>
    simp only [bind, runs_ask_iff]
    constructor
    · rintro ⟨answer, tail, rfl, h⟩
      obtain ⟨front, back, value, rfl, hfront, hback⟩ := (ih answer).1 h
      exact ⟨_ :: front, back, value, rfl, ⟨answer, front, rfl, hfront⟩, hback⟩
    · rintro ⟨front, back, value, rfl, ⟨answer, tail, rfl, hfront⟩, hback⟩
      exact ⟨answer, tail ++ back, rfl, (ih answer).2 ⟨tail, back, value, rfl, hfront, hback⟩⟩
  | stuck =>
    simp [bind]

/-- Run a procedure against surroundings with a state. -/
def play {σ : Type} (respond : (query : Query) → σ → query.Answer × σ) :
    Procedure α → σ → Option α × σ
  | .done value, state => (some value, state)
  | .ask query next, state =>
    let (answer, state) := respond query state
    play respond (next answer) state
  | .stuck, state => (none, state)

/-- Run a procedure in a monad that can answer its questions. -/
def interpret {m : Type → Type} [Monad m] (respond : (query : Query) → m query.Answer) :
    Procedure α → m (Option α)
  | .done value => pure (some value)
  | .ask query next => do
    let answer ← respond query
    interpret respond (next answer)
  | .stuck => pure none

end Procedure

end RestartCheck
