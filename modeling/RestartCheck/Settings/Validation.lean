import RestartCheck.Settings.Model
import RestartCheck.Settings.Node
import RestartCheck.Settings.Number

/-!
# Checking settings

**Input.**  The tree that all sources together amount to.

**Output.**  The settings, or every fault in the order of the settings: where it is and of which
kind. A setting that is not given has its default.  Names that are no setting are ignored.

**Results.**
* `run_eq_ok_iff`: checking succeeds exactly when it meets no fault.
-/

namespace RestartCheck.Settings

/-- What is wrong with a node. -/
inductive FaultKind
  | notTable
  | notText
  | notList
  | notNumber
  | unreadableNumber
  | notInteger
  | unreadableInteger
  | integerTooLong
  | hasFraction
  | notFinite
  | notFlag
  | unreadableFlag
  | tooSmall
  | belowLeast
  | aboveMost
  | unknownWord
  | unknownFormat
  | emptyList
deriving DecidableEq, Repr

def FaultKind.name : FaultKind → String
  | .notTable => "model_type"
  | .notText => "string_type"
  | .notList => "list_type"
  | .notNumber => "float_type"
  | .unreadableNumber => "float_parsing"
  | .notInteger => "int_type"
  | .unreadableInteger => "int_parsing"
  | .integerTooLong => "int_parsing_size"
  | .hasFraction => "int_from_float"
  | .notFinite => "finite_number"
  | .notFlag => "bool_type"
  | .unreadableFlag => "bool_parsing"
  | .tooSmall => "greater_than"
  | .belowLeast => "greater_than_equal"
  | .aboveMost => "less_than_equal"
  | .unknownWord => "enum"
  | .unknownFormat => "literal_error"
  | .emptyList => "value_error"

/-- A fault and the path of keys to it. -/
structure Fault where
  path : List String
  kind : FaultKind
deriving DecidableEq, Repr

/-! ## Single values -/

def readText : Node → Except FaultKind String
  | .text value => .ok value
  | _ => .error .notText

def readOptionalText : Node → Except FaultKind (Option String)
  | .null => .ok none
  | node => (readText node).map some

/-- The value of a word among those of a list. -/
def readWord {α : Type} (ofText? : String → Option α) (kind : FaultKind) :
    Node → Except FaultKind α
  | .text word =>
    match ofText? word with
    | some value => .ok value
    | none => .error kind
  | _ => .error kind

/-- The value of a word, or nothing. -/
def readOptionalWord {α : Type} (ofText? : String → Option α) (kind : FaultKind) :
    Node → Except FaultKind (Option α)
  | .null => .ok none
  | node => (readWord ofText? kind node).map some

def formatOf? (word : String) : Option LogFormat :=
  [LogFormat.json, .console].find? (·.text == word)

def readFloat : Node → Except FaultKind Float
  | .float value => .ok value
  | .int value =>
    let x := Decimal.intToFloat value
    if x.isFinite then .ok x else .error .notNumber
  | .bool value => .ok (if value then 1.0 else 0.0)
  | .text value =>
    match floatOfText? value with
    | some x => .ok x
    | none => .error .unreadableNumber
  | _ => .error .notNumber

/-- A number above zero. -/
def readPositive (node : Node) : Except FaultKind Float := do
  let x ← readFloat node
  if x > 0.0 then .ok x else .error .tooSmall

/-- The integer that a double is, if it lies strictly between the bounds of 64 bits. -/
def integerOfFloat (value : Float) : Except FaultKind Int :=
  if !value.isFinite then .error .notFinite
  else
    match Decimal.floatToInt? value with
    | none => .error .hasFraction
    | some n => if -wordBound < n ∧ n < wordBound then .ok n else .error .integerTooLong

def integerOfText (text : String) : Except FaultKind Int :=
  match shortInteger? text with
  | none => .error .unreadableInteger
  | some short =>
    if shortIntegerLimit < short.length then .error .integerTooLong
    else
      match integerOf? short with
      | some n => .ok n
      | none => .error .unreadableInteger

def readInt : Node → Except FaultKind Int
  | .int value => .ok value
  | .bool value => .ok (if value then 1 else 0)
  | .float value => integerOfFloat value
  | .text value => integerOfText value
  | _ => .error .notInteger

/-- An integer that is not below a least one. -/
def readAtLeast (least : Int) (node : Node) : Except FaultKind Int := do
  let n ← readInt node
  if least ≤ n then .ok n else .error .belowLeast

/-- An integer between two bounds. -/
def readBetween (least most : Int) (node : Node) : Except FaultKind Int := do
  let n ← readAtLeast least node
  if n ≤ most then .ok n else .error .aboveMost

def yesWords : List String := ["1", "on", "t", "true", "y", "yes"]

def noWords : List String := ["0", "off", "f", "false", "n", "no"]

/-- A flag written as a word in any case. -/
def readFlagWord (word : String) : Except FaultKind Bool :=
  let word := String.ofList (word.toList.map Char.toLower)
  if yesWords.contains word then .ok true
  else if noWords.contains word then .ok false
  else .error .unreadableFlag

/-- A flag written as one or zero. -/
def readFlagNumber (value : Int) : Except FaultKind Bool :=
  if value = 1 then .ok true else if value = 0 then .ok false else .error .unreadableFlag

/-- A flag: a boolean, one or zero, or a word.  Numbers beyond 64 bits are no flags at all. -/
def readFlag : Node → Except FaultKind Bool
  | .bool value => .ok value
  | .int value => if isWord value then readFlagNumber value else .error .notFlag
  | .float value =>
    match integerOfFloat value with
    | .ok n => readFlagNumber n
    | .error _ => .error .notFlag
  | .text word => readFlagWord word
  | _ => .error .notFlag

/-! ## Sections -/

/-- A check that goes on after a fault, so that all faults are found. -/
abbrev Check := StateM (List Fault)

def note (path : List String) (kind : FaultKind) : Check Unit :=
  modify fun faults => faults ++ [⟨path, kind⟩]

/-- A part of the tree, and the path to it. -/
structure Part where
  path : List String
  entries : Node.Entries

/-- The checked value of a field, or its default when it is missing or faulty. -/
def Part.field {α : Type} (part : Part) (name : String) (fallback : α)
    (read : Node → Except FaultKind α) : Check α :=
  match OrderedMap.lookup part.entries name with
  | none => pure fallback
  | some node =>
    match read node with
    | .ok value => pure value
    | .error kind => do
      note (part.path ++ [name]) kind
      return fallback

/-- The part under a name.  A missing or faulty part is empty. -/
def Part.part (outer : Part) (name : String) : Check Part := do
  let path := outer.path ++ [name]
  match OrderedMap.lookup outer.entries name with
  | some (.table entries) => return ⟨path, entries⟩
  | some _ =>
    note path .notTable
    return ⟨path, []⟩
  | none => return ⟨path, []⟩

def checkItems {α : Type} (path : List String) (read : Node → Except FaultKind α) :
    Nat → List Node → Check (List α)
  | _, [] => pure []
  | position, node :: rest => do
    match read node with
    | .ok value =>
      let values ← checkItems path read (position + 1) rest
      return value :: values
    | .error kind =>
      note (path ++ [toString position]) kind
      checkItems path read (position + 1) rest

/-- The checked items of a list that may not be empty, or a default. -/
def Part.items {α : Type} (part : Part) (name : String) (fallback : List α)
    (read : Node → Except FaultKind α) : Check (List α) := do
  let path := part.path ++ [name]
  match OrderedMap.lookup part.entries name with
  | none => return fallback
  | some (.list []) =>
    note path .emptyList
    return fallback
  | some (.list nodes) => checkItems path read 0 nodes
  | some _ =>
    note path .notList
    return fallback

def checkPoll (outer : Part) : Check PollBudget := do
  let part ← outer.part "poll"
  let defaults : PollBudget := {}
  return {
    interval := ← part.field "interval" defaults.interval readPositive
    timeout := ← part.field "timeout" defaults.timeout readPositive }

/-- How the service is reached, as a part of its own. -/
def checkClient (part : Part) : Check ClientSettings := do
  let defaults : ClientSettings := {}
  return {
    baseUrl := ← part.field "base_url" defaults.baseUrl readText
    username := ← part.field "username" defaults.username readText
    password := ← part.field "password" defaults.password readText
    timeout := ← part.field "timeout" defaults.timeout readPositive
    verifyTls := ← part.field "verify_tls" defaults.verifyTls readFlag }

/-- How log entries are written. -/
def checkLogging (outer : Part) : Check LoggingSettings := do
  let part ← (← outer.part "observability").part "logging"
  let defaults : LoggingSettings := {}
  return {
    level := ← part.field "level" defaults.level readText
    format := ← part.field "format" defaults.format (readWord formatOf? .unknownFormat)
    redact := ← part.field "redact_pii" defaults.redact readFlag }

def checkSecurityStore (outer : Part) : Check SecurityStoreSettings := do
  let part ← outer.part "security_store"
  let defaults : SecurityStoreSettings := {}
  return {
    enabled := ← part.field "enabled" defaults.enabled readFlag
    storeName := ← part.field "store_name" defaults.storeName readText
    poll := ← checkPoll part }

/-- Settings of the background job scenario. -/
def checkJob (outer : Part) : Check JobSettings := do
  let part ← outer.part "job_persistence"
  let defaults : JobSettings := {}
  return {
    enabled := ← part.field "enabled" defaults.enabled readFlag
    jobId := ← part.field "job_id" defaults.jobId readText
    documents := ← part.field "num_docs" defaults.documents (readBetween 1 59)
    acceptedStates := ← part.items "accepted_states" defaults.acceptedStates
      (readWord JobState.ofText? .unknownWord)
    poll := ← checkPoll part }

def checkWatcher (outer : Part) : Check WatcherSettings := do
  let part ← outer.part "watcher"
  let defaults : WatcherSettings := {}
  return {
    enabled := ← part.field "enabled" defaults.enabled readFlag
    minHits := ← part.field "min_hits" defaults.minHits (readAtLeast 1)
    poll := ← checkPoll part }

def checkScenarios (part : Part) : Check ScenarioSettings := do
  return {
    singleRecord := ← part.field "single_record_enabled" true readFlag
    incompatibleIndex := ← part.field "incompatible_index_enabled" true readFlag
    securityStore := ← checkSecurityStore part
    job := ← checkJob part
    watcher := ← checkWatcher part }

def checkSettings (part : Part) : Check Settings := do
  return {
    phase := ← part.field "phase" none (readOptionalWord Phase.ofText? .unknownWord)
    oldVersion := ← part.field "old_cluster_version" none readOptionalText
    upgradedVersion := ← part.field "upgraded_version" none readOptionalText
    client := ← checkClient (← part.part "client")
    logging := ← checkLogging part
    scenarios := ← checkScenarios (← part.part "scenarios") }

/-- Run a check on a tree.  A single fault makes it fail. -/
def run {α : Type} (check : Part → Check α) (entries : Node.Entries) : Except (List Fault) α :=
  let (value, faults) := (check ⟨[], entries⟩).run []
  if faults.isEmpty then .ok value else .error faults

def validate (entries : Node.Entries) : Except (List Fault) Settings :=
  run checkSettings entries

/-- A check succeeds exactly when it collects no fault. -/
theorem run_eq_ok_iff {α : Type} {check : Part → Check α} {entries : Node.Entries} {value : α} :
    run check entries = .ok value ↔ (check ⟨[], entries⟩).run [] = (value, []) := by
  unfold run
  rcases (check ⟨[], entries⟩).run [] with ⟨result, faults⟩
  cases faults with
  | nil =>
    constructor
    · intro h; cases h; rfl
    · intro h; cases h; rfl
  | cons fault rest =>
    constructor
    · intro h; cases h
    · intro h; cases h

end RestartCheck.Settings
