import RestartCheck.Proofs.Effect.Runs
import RestartCheck.Proofs.Effect.Trace

/-!
# Context of log entries

Log entries are written in the context that is bound at the time.  An action *keeps the context*
when it leaves that context as it finds it, in its log entries as well as in the memory.

**Results.**
* `logged_append`: the log is read part by part.
-/

namespace RestartCheck

/-- The log entry that an event stands for, if it does. -/
def Event.entry? (event : Event) : Option LogEntry :=
  match event.query with
  | .log entry => some entry
  | _ => none

namespace Trace

/-- The log entries, in order. -/
def logged (events : List Event) : List LogEntry :=
  events.filterMap Event.entry?

@[simp] theorem logged_append
    (front back : List Event) :
    logged (front ++ back) = logged front ++ logged back :=
  List.filterMap_append

@[simp] theorem logged_noted_cons
    (session : Session)
    (level : LogLevel)
    (event : String)
    (fields : LogFields)
    (rest : List Event) :
    logged (Action.noted session level event fields :: rest) =
      ⟨level, .string event, fields, session.context⟩ :: logged rest :=
  rfl

end Trace

namespace Action

open Trace

variable {α : Type}

/-- Every run of the action leaves the bound context as it was, and writes its log entries in it. -/
def KeepsContext (action : Action α) : Prop :=
  ∀ ⦃before after : Session⦄ ⦃events : List Event⦄ ⦃result : Except Failure α⦄,
    action.Runs before events result after →
      after.context = before.context ∧ ∀ entry ∈ logged events, entry.context = before.context

end Action
end RestartCheck
