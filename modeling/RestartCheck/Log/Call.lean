import RestartCheck.Log.Rendering

/-!
# Calls of a logger

A logger is called by the name of a method, with an event and named values.  The names of the levels
are methods, and some levels have a second name; `exception` writes at the level of errors and marks
the entry.  The name of such a method with an `a` in front puts the writing off to a moment that
never comes, so nothing is written.

**Output.**  The entry of a call, if it has one, or the defect of a call that cannot be made.

**Results.**
* `outcome_reserved`: a value under a reserved name makes a call fail, whether it would be written
  or not.
-/

namespace RestartCheck

structure LogCall where
  method : String
  event : Json
  values : Json.Members

namespace LogCall

def levelOf? (method : String) : Option LogLevel :=
  match method with
  | "warn" => some .warning
  | "fatal" => some .critical
  | "msg" => some .info
  | "exception" => some .error
  | name => LogLevel.all.find? (·.text == name)

/-- The level of the method whose writing is put off. -/
def deferredLevelOf? (method : String) : Option LogLevel :=
  match method.toList with
  | 'a' :: name => levelOf? (String.ofList name)
  | _ => none

/-- Names of the parts of a call, which no value can have. -/
def reservedNames : List String := ["self", "event"]

def hasValue (call : LogCall) (name : String) : Bool :=
  (OrderedMap.lookup call.values name).isSome

/-- The named values of an entry.  The method `exception` marks the entry unless it is told
otherwise. -/
def fields (call : LogCall) : LogFields :=
  let marks := if call.method = "exception" then [("exc_info", Json.bool true)] else []
  (OrderedMap.update marks call.values).map fun (name, value) => (name, .json value)

/-- What a call of another method comes to: none of them writes anything. -/
def withoutEntry (call : LogCall) : Except Failure Unit :=
  match call.method with
  | "bind" | "new" | "log" | "is_enabled_for" | "get_effective_level" => .error (.defect .wrongType)
  | "unbind" =>
    match call.event, call.values with
    | .string name, [] => .error (.defect (.missingKey name))
    | _, _ => .error (.defect .wrongType)
  | "try_unbind" => if call.values.isEmpty then .ok () else .error (.defect .wrongType)
  | _ => .error (.defect .noSuchOperation)

/-- The entry of a call, if it is to be written. -/
def outcome (call : LogCall) (settings : LoggingSettings) (context : LogFields) :
    Except Failure (Option LogEntry) :=
  match levelOf? call.method, deferredLevelOf? call.method with
  | none, none => call.withoutEntry.map fun _ => none
  | level?, _ =>
    if reservedNames.any call.hasValue then .error (.defect .wrongType)
    else
      match level? with
      | none => .ok none
      | some level =>
        let entry : LogEntry := ⟨level, call.event, call.fields, context⟩
        if !settings.isWritten entry then .ok none
        else if call.hasValue "method_name" then .error (.defect .wrongType)
        else
          match entry.obstacle? settings with
          | some obstacle => .error (.defect (.ofObstacle obstacle))
          | none => .ok (some entry)

/-- An event whose values bear a reserved name is not logged. -/
theorem outcome_reserved {call : LogCall} {level : LogLevel}
    (hlevel : levelOf? call.method = some level)
    (h : reservedNames.any call.hasValue = true) (settings : LoggingSettings)
    (context : LogFields) : call.outcome settings context = .error (.defect .wrongType) := by
  simp [outcome, hlevel, h]

end LogCall

namespace LoggingSettings

/-- The settings that named values ask for.  Other names than those of the settings are refused, and
so is a level that is no text. -/
def ofValues (values : Json.Members) : Except Failure LoggingSettings := do
  if !values.all fun entry => ["level", "format", "redact_pii"].contains entry.1 then
    throw (.defect .wrongType)
  let defaults : LoggingSettings := {}
  let level ← match OrderedMap.lookup values "level" with
    | none => pure defaults.level
    | some (.string word) => pure word
    | some _ => throw (.defect .noSuchOperation)
  let format := match OrderedMap.lookup values "format" with
    | some (.string "json") => LogFormat.json
    | _ => .console
  return ⟨level, format, ((OrderedMap.lookup values "redact_pii").map Json.truthy).getD
    defaults.redact⟩

end LoggingSettings

end RestartCheck
