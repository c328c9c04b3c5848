import RestartCheck.Failure
import RestartCheck.Json.Encoding
import RestartCheck.Json.Literal
import RestartCheck.Log.Entry
import RestartCheck.Log.Redaction
import RestartCheck.Settings.Model

/-!
# Writing log entries

An entry is written when it is at least as severe as the settings ask for.  It becomes one JSON
object in a line, or text for reading along.  That text takes more than one line if the event, a
name or a plain value does, or if a stack or an exception is told.

A value of any kind can be given to an entry.  One that is nested too deeply to be redacted, or that
cannot be told, keeps the entry from being written.

**Results.**
* `isWritten_iff`: which entries are written.
* `obstacle?_text`: texts keep no entry from being written.
-/

namespace RestartCheck

/-- A letter in upper case.  Besides the letters of ASCII, the dotless i has an upper case among
them. -/
def LogLevel.upperChar (c : Char) : Char :=
  if c = 'ı' then 'I' else c.toUpper

/-- The level that a word names in any case, such as `Warning`. -/
def LogLevel.ofWord? (word : String) : Option LogLevel :=
  let upper := word.toList.map LogLevel.upperChar
  LogLevel.all.find? fun level => level.text.toList.map Char.toUpper == upper

namespace LoggingSettings

/-- The least severe level that is written.  An unknown word stands for the usual level. -/
def least (settings : LoggingSettings) : LogLevel :=
  (LogLevel.ofWord? settings.level).getD .info

/-- The entry is severe enough to be written. -/
def isWritten (settings : LoggingSettings) (entry : LogEntry) : Bool :=
  settings.least.severity ≤ entry.level.severity

/-- An event is written when it is at least as severe as the least that is asked for. -/
@[simp] theorem isWritten_iff {settings : LoggingSettings} {entry : LogEntry} :
    settings.isWritten entry = true ↔ settings.least.severity ≤ entry.level.severity := by
  simp [isWritten]

end LoggingSettings

/-- What was seen, as a value.  An observation is shown by its text. -/
def Observed.shown : Observed → Json
  | .json value => value
  | .job observation => .string observation.literal

/-- What was seen, as a redacted value.  The text of an observation is not searched. -/
def Observed.redacted : Observed → Json
  | .json value => Redaction.redact value
  | .job observation => .string observation.literal

/-- What keeps a value from being written in an entry of the level.  An entry that is not severe
enough is dropped before its values are looked at. -/
def LoggingSettings.obstacle? (settings : LoggingSettings) (level : LogLevel) :
    Observed → Option Json.Obstacle
  | .job _ => none
  | .json value =>
    if level.severity < settings.least.severity then none
    else if settings.redact then
      if Redaction.fits Redaction.levelLimit value then
        (Redaction.redact value).obstacle? Json.nestingLimit
      else some .tooDeep
    else value.obstacle? Json.nestingLimit

/-- Texts are always told. -/
@[simp] theorem LoggingSettings.obstacle?_text (settings : LoggingSettings) (level : LogLevel)
    (text : String) : settings.obstacle? level (.json (.string text)) = none := by
  simp [obstacle?, Redaction.fits, Redaction.redact, Json.obstacle?]

@[simp] theorem LoggingSettings.obstacle?_null (settings : LoggingSettings) (level : LogLevel) :
    settings.obstacle? level (.json .null) = none := by
  simp [obstacle?, Redaction.fits, Redaction.redact, Json.obstacle?]

namespace LogEntry

/-- The parts of an entry: its fields and bound values, its event and its level.  A bound value
takes the place of an event that is not told.  A time of writing is not among the parts, so none
that is given is kept. -/
def parts (entry : LogEntry) : LogFields :=
  let shown := (OrderedMap.ofPairs entry.merged).filter fun part => part.1 ≠ "timestamp"
  let told := match entry.event with
    | .null => shown
    | event => OrderedMap.put shown "event" (.json event)
  OrderedMap.put told "level" (.json (.string entry.level.text))

/-- What keeps an entry from being written.  A value that is hidden as a whole is not looked at. -/
def obstacle? (settings : LoggingSettings) (entry : LogEntry) : Option Json.Obstacle :=
  entry.parts.findSome? fun part =>
    if settings.redact && Redaction.isSensitive part.1 then none
    else settings.obstacle? entry.level part.2

/-- One part as it is written, redacted if that is asked for. -/
def member (redact : Bool) (part : String × Observed) : String × Json :=
  (part.1,
    if redact then
      if Redaction.isSensitive part.1 then .string Redaction.hiddenValue else part.2.redacted
    else part.2.shown)

/-- The members that are written under the given settings, if any are. -/
def written? (settings : LoggingSettings) (entry : LogEntry) : Option Json.Members :=
  if settings.isWritten entry then some (entry.parts.map (member settings.redact)) else none

end LogEntry

/-! ## Text for reading along -/

namespace Console

/-- How a text is set off: the codes before and after it. -/
def styled (code text : String) : String :=
  "\x1b[" ++ code ++ "m" ++ text ++ "\x1b[0m"

/-- The text with spaces behind it up to a width. -/
def padded (width : Nat) (text : String) : String :=
  text ++ "".pushn ' ' (width - text.length)

/-- A value: quoted if it is a text with blanks or quotes. -/
def valueText : Json → String
  | .string text =>
    if text.toList.any fun c => [' ', '\t', '=', '\r', '\n', '"', '\''].contains c then
      Text.quoted text
    else text
  | value => value.literal

/-- Names that have a place of their own. -/
def placed : List String :=
  ["level", "event", "logger", "logger_name", "stack", "exception", "exc_info"]

/-- The text of a value that has a place of its own, if it is given. -/
def placedText (members : Json.Members) (name : String) (text : Json → String) : List String :=
  match OrderedMap.lookup members name with
  | some value => [text value]
  | none => []

def loggerText (name : Json) : String :=
  styled "34" ("[" ++ name.display ++ "]")

/-- The first line: level, event, names of loggers, and all other values. -/
def headLine (members : Json.Members) : String :=
  let others := members.filter fun member => !placed.contains member.1
  " ".intercalate
    (placedText members "level" (fun level => "[" ++ styled "32" (padded 9 level.display) ++ "]")
      ++ placedText members "event" (fun event => styled "1" (padded 30 event.display))
      ++ placedText members "logger" loggerText ++ placedText members "logger_name" loggerText
      ++ others.map fun member => styled "36" member.1 ++ "=" ++ styled "35" (valueText member.2))

/-- A text that follows the first line, if there is one. -/
def blockOf? (members : Json.Members) (name : String) : Except Failure (Option String) :=
  match members.getOrNull name with
  | .null => .ok none
  | .string text => .ok (some ("\n" ++ text))
  | _ => .error (.defect .wrongType)

/-- An entry: the first line, then a stack and an exception. -/
def entryText (members : Json.Members) : Except Failure String := do
  let stack ← blockOf? members "stack"
  let exception ← blockOf? members "exception"
  let isParted := stack.isSome && (exception.isSome || (members.getOrNull "exc_info").truthy)
  let rule := if isParted then "\n\n" ++ "".pushn '=' 79 ++ "\n" else ""
  return headLine members ++ stack.getD "" ++ rule ++ exception.getD ""

end Console

/-- What is written for an entry under the given settings, with the line end. -/
def LoggingSettings.line? (settings : LoggingSettings) (entry : LogEntry) :
    Except Failure (Option String) :=
  match entry.written? settings with
  | none => .ok none
  | some members =>
    match settings.format with
    | .json => .ok (((Json.object members).encode? .line).map (· ++ "\n"))
    | .console => (Console.entryText members).map fun text => some (text ++ "\n")

end RestartCheck
