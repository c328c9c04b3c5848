import RestartCheck.Log.Rendering
import RestartCheck.Service.Rehearsal

/-!
# Transcripts

What the moments of a rehearsal show: the times waited for, the entries that were logged, and those
of them that reach a reader under the settings in force when they were logged.

**Results.**
* `sleeps_append`, `entries_append`: a transcript is read part by part.
-/

namespace RestartCheck.Transcript

/-- The seconds that were waited for, in order. -/
def sleeps (moments : List Moment) : List Float :=
  moments.filterMap fun moment =>
    match moment.event.query with
    | .sleep seconds => some seconds
    | _ => none

/-- The requests that were sent, each with the time of its sending. -/
def requests (moments : List Moment) : List (Float × Request) :=
  moments.filterMap fun moment =>
    match moment.event.query with
    | .call request => some (moment.time, request)
    | _ => none

/-- The entries that were logged, written or not. -/
def entries (moments : List Moment) : List LogEntry :=
  moments.filterMap fun moment =>
    match moment.event.query with
    | .log entry => some entry
    | _ => none

/-- The objects that are written under the given settings, and under those chosen later on. -/
def writtenUnder (settings : LoggingSettings) : List Moment → List Json.Members
  | [] => []
  | moment :: rest =>
    match moment.event.query with
    | .setUpLogging chosen => writtenUnder chosen rest
    | .log entry =>
      match settings.format, entry.written? settings with
      | .json, some members => members :: writtenUnder settings rest
      | _, _ => writtenUnder settings rest
    | _ => writtenUnder settings rest

@[simp] theorem sleeps_append (front back : List Moment) :
    sleeps (front ++ back) = sleeps front ++ sleeps back :=
  List.filterMap_append

/-- The events logged over two transcripts in a row. -/
@[simp] theorem entries_append (front back : List Moment) :
    entries (front ++ back) = entries front ++ entries back :=
  List.filterMap_append

end RestartCheck.Transcript
