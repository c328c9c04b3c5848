import RestartCheck.Poll.Outcome

/-!
# Log entries

A log entry is an event with a level, named fields and the context that was bound when it was
written.  The context tells which scenario of which phase was running.

**Results.**
* `LogEntry.merged_field`: a field hides a bound value of the same name.
-/

namespace RestartCheck

inductive LogLevel
  | debug
  | info
  | warning
  | error
  | critical
deriving DecidableEq, Repr, Inhabited

namespace LogLevel

/-- Every level, the least severe first. -/
def all : List LogLevel := [.debug, .info, .warning, .error, .critical]

def text : LogLevel → String
  | .debug => "debug"
  | .info => "info"
  | .warning => "warning"
  | .error => "error"
  | .critical => "critical"

def severity : LogLevel → Nat
  | .debug => 10
  | .info => 20
  | .warning => 30
  | .error => 40
  | .critical => 50

end LogLevel

/-- Named values of a log entry. -/
abbrev LogFields := OrderedMap String Observed

/-- One log entry.  The event is a name as a rule; an entry whose event is null tells none. -/
structure LogEntry where
  level : LogLevel
  event : Json
  fields : LogFields := []
  context : LogFields := []
deriving Inhabited

namespace LogEntry

/-- The fields followed by the bound values that no field hides. -/
def merged (entry : LogEntry) : LogFields :=
  entry.fields ++ entry.context.filter fun bound => (OrderedMap.lookup entry.fields bound.1).isNone

/-- A field of its own wins over one of the context. -/
theorem merged_field {entry : LogEntry} {name : String} {value : Observed}
    (h : OrderedMap.lookup entry.fields name = some value) :
    OrderedMap.lookup entry.merged name = some value :=
  OrderedMap.lookup_append_left h

end LogEntry

end RestartCheck
