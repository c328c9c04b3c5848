import RestartCheck.Run.Config
import RestartCheck.Scenario.Catalog
import RestartCheck.Text.DecimalDigit

/-!
# Arguments of the program

**Input.**  The arguments as texts.  Options are `--phase`, `--old-version` and `--scenario`, each
with a value in the next argument or after an equals sign, and `-h` or `--help`.  The name of a long
option may be cut off where no other option starts with the same characters.  The letter of `-h` may
be repeated.

**Output.**  What is asked for; or that help is, or that the arguments are misused.

**Algorithm.**  Every argument is first classified on its own, and then the options take their
values from left to right.  An argument after a dash can still be a value, if it is a negative
number or contains a space.  Whatever belongs to no option is a misuse, but help comes first.

**Results.**
* `matches_exact`: the full name of an option is understood.
-/

namespace RestartCheck.CommandLine

inductive OptionName
  | help
  | phase
  | oldVersion
  | scenario
deriving DecidableEq, Repr

namespace OptionName

def names : List (String × OptionName) :=
  [("-h", .help), ("--help", .help), ("--phase", .phase), ("--old-version", .oldVersion),
   ("--scenario", .scenario)]

def ofName? (name : String) : Option OptionName :=
  (names.find? fun entry => entry.1 == name).map Prod.snd

/-- The options whose names start with the given characters. -/
def startingWith (start : List Char) : List OptionName :=
  (names.filter fun entry => start.isPrefixOf entry.1.toList).map Prod.snd

/-- The texts that an option may have as its value. -/
def accepts : OptionName → String → Bool
  | .help, _ => false
  | .phase, value => (Phase.ofText? value).isSome
  | .oldVersion, _ => true
  | .scenario, value => Catalog.names.contains value

/-- The full name of an option is understood. -/
@[simp] theorem matches_exact : ∀ entry ∈ names, ofName? entry.1 = some entry.2 := by
  decide

end OptionName

inductive Argument
  /-- The value of an option, or something that belongs to none. -/
  | value (text : String)
  /-- An option with the value that an equals sign attaches to it. -/
  | option (name : OptionName) (attached : Option String)
  /-- The short option for help with letters or an equals sign and letters attached. -/
  | shortHelp (letters : List Char)
  /-- Looks like an option but is none. -/
  | unknown
  /-- The mark after which nothing is an option. -/
  | mark
deriving DecidableEq, Repr

/-- Why a run does not take place. -/
inductive Refusal
  | help
  | misuse
deriving DecidableEq, Repr

/-- A negative number: digits, or digits after a point. -/
def isNegativeNumber (text : List Char) : Bool :=
  let text := if text.getLast? = some '\n' then text.dropLast else text
  match text with
  | '-' :: rest =>
    let after := rest.dropWhile Text.isDecimalDigit
    match after with
    | [] => !rest.isEmpty
    | '.' :: fraction => !fraction.isEmpty && fraction.all Text.isDecimalDigit
    | _ => false
  | _ => false

/-- What comes before the first equals sign of a text, and what after it if there is one. -/
def splitEquals (text : List Char) : List Char × Option String :=
  (text.takeWhile (· ≠ '='),
    match text.dropWhile (· ≠ '=') with
    | _ :: rest => some (String.ofList rest)
    | [] => none)

/-- An argument after a dash that is no option. -/
def fallback (text : List Char) : Argument :=
  if isNegativeNumber text || text.contains ' ' then .value (String.ofList text) else .unknown

/-- Classify an argument before any mark. -/
def classify (text : List Char) : Except Refusal Argument :=
  match text with
  | '-' :: c :: rest =>
    let (start, attached) := splitEquals text
    match OptionName.ofName? (String.ofList text), OptionName.ofName? (String.ofList start) with
    | some name, _ => .ok (.option name none)
    | none, some name =>
      if c = 'h' then .ok (.shortHelp (attached.getD "").toList)
      else .ok (.option name attached)
    | none, none =>
      if c = '-' then
        match OptionName.startingWith start with
        | [] => .ok (fallback text)
        | [name] => .ok (.option name attached)
        | _ => .error .misuse
      else if c = 'h' then .ok (.shortHelp rest)
      else .ok (fallback text)
  | _ => .ok (.value (String.ofList text))

def classifyAll : List String → Except Refusal (List Argument)
  | [] => .ok []
  | text :: rest =>
    if text = "--" then .ok (.mark :: rest.map .value)
    else do
      let first ← classify text.toList
      let others ← classifyAll rest
      return first :: others

/-- The letters attached to the short option for help ask for nothing but help. -/
def allowsHelp (letters : List Char) : Bool :=
  !letters.isEmpty && letters.all (· = 'h')

inductive Given
  | text (value : String)
  /-- The mark is attached to the option in place of a text. -/
  | nothing
deriving DecidableEq, Repr

def Given.text? : Given → Option String
  | .text value => some value
  | .nothing => none

/-- What a run is asked to do.  No scenario stands for all of them. -/
structure Arguments where
  phase : Option Given := none
  oldVersion : Option Given := none
  scenarios : List Given := []
deriving DecidableEq, Repr, Inhabited

/-- How the program is called. -/
def usage : String :=
  "usage: restart-check [-h] [--phase " ++ "|".intercalate (Phase.all.map Phase.text)
    ++ "] [--old-version VERSION] [--scenario " ++ "|".intercalate Catalog.names ++ "]..."

def Arguments.note (arguments : Arguments) (given : Given) : OptionName → Except Refusal Arguments
  | .help => .error .misuse
  | .phase => .ok { arguments with phase := some given }
  | .oldVersion => .ok { arguments with oldVersion := some given }
  | .scenario => .ok { arguments with scenarios := arguments.scenarios ++ [given] }

def Arguments.set (arguments : Arguments) (name : OptionName) (value : String) :
    Except Refusal Arguments :=
  if value = "--" then arguments.note .nothing name
  else if name.accepts value then arguments.note (.text value) name
  else .error .misuse

/-- Let the options take their values; `stray` tells whether something belonged to none. -/
def consume (arguments : Arguments) (stray : Bool) : List Argument → Except Refusal Arguments
  | [] => if stray then .error .misuse else .ok arguments
  | .option .help none :: _ => .error .help
  | .option .help (some _) :: _ => .error .misuse
  | .shortHelp letters :: _ => .error (if allowsHelp letters then .help else .misuse)
  | .option name (some value) :: rest => do
    let arguments ← arguments.set name value
    consume arguments stray rest
  | .option name none :: .value value :: rest => do
    let arguments ← arguments.set name value
    consume arguments stray rest
  | .option _ none :: _ => .error .misuse
  | .value _ :: rest => consume arguments true rest
  | .unknown :: rest => consume arguments true rest
  | .mark :: rest => consume arguments true rest

def parse (texts : List String) : Except Refusal Arguments :=
  (classifyAll texts).bind (consume {} false)

end RestartCheck.CommandLine
