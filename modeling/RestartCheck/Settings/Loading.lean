import RestartCheck.Effect.Procedure
import RestartCheck.Settings.Environment
import RestartCheck.Settings.Validation
import RestartCheck.Toml.Document

/-!
# Loading settings

**Sources, the highest first.**  Values given by the caller, environment variables, the file of the
environment that the run belongs to, and the base file.  The trees are laid over each other and then
checked once.

**Files.**  Both files lie in the directory that `PHOENIX_CONFIG_DIR` names, or else in the nearest
`config` directory with a base file at or above the working directory.  The base file must exist;
the other one, named by `PHOENIX_ENV`, may be missing.
-/

namespace RestartCheck.Settings

inductive LoadFailure
  | missingDirectory (path : String)
  | missingBase (path : String)
  | malformedFile
  | malformedVariable
  | defect (failure : Failure)
  | invalid (faults : List Fault)

/-- How a failure is told.  A defect is not told but ends the program, which names it. -/
def LoadFailure.message : LoadFailure → String
  | .missingDirectory path => "PHOENIX_CONFIG_DIR does not exist: " ++ path
  | .missingBase path => "Base configuration not found: " ++ path
  | .malformedFile => "a settings file is not well-formed"
  | .malformedVariable => "an environment variable for a section is not JSON"
  | .defect failure => failure.kindName
  | .invalid faults =>
    "invalid settings: " ++ ", ".intercalate (faults.map fun fault =>
      ".".intercalate fault.path ++ " " ++ fault.kind.name)

/-! ## Merging the sources -/

/-- Read a settings file.  A missing file says nothing. -/
def readSource (text : Option String) : Except LoadFailure Node.Entries :=
  match Toml.parse (text.getD "") with
  | .ok entries => .ok (Node.alignTop Shape.settings entries)
  | .error (.numeral fault) => .error (.defect (Failure.ofNumeral fault))
  | .error _ => .error .malformedFile

/-- Lay sources over each other, the highest first. -/
def merge : List Node.Entries → Node.Entries
  | [] => []
  | source :: below => Node.overlayEntries source (merge below)

/-- Lay all sources over each other and check the result. -/
def ofSources (given : Node.Entries) (environment : Environment.Variables)
    (special base : Node.Entries) : Except LoadFailure Settings := do
  let fromEnvironment ← (Environment.entries environment).mapError fun _ => .malformedVariable
  let given := Node.alignTop Shape.settings given
  (validate (merge [given, fromEnvironment, special, base])).mapError .invalid

/-! ## Finding the files -/

/-- What a program is started with. -/
structure Surroundings where
  environment : Environment.Variables
  directory : Files.Path

namespace Surroundings

def baseName : String := "default.toml"

/-- Name of the file of the environment that the run belongs to. -/
def specialName (surroundings : Surroundings) : String :=
  (OrderedMap.lookup surroundings.environment "PHOENIX_ENV").getD "development" ++ ".toml"

def namedDirectory? (surroundings : Surroundings) : Option String :=
  (OrderedMap.lookup surroundings.environment "PHOENIX_CONFIG_DIR").filter (· ≠ "")

/-- A step of loading, which may fail. -/
abbrev Loading := ExceptT LoadFailure Procedure

/-- Ask a question about files. -/
def ask {α : Type} (answer : Procedure (Except Files.NameTooLong α)) : Loading α :=
  ExceptT.mk do
    match ← answer with
    | .ok value => return .ok value
    | .error _ => return .error (.defect (.defect .unusablePath))

def isDirectory (path : Files.Path) : Loading Bool := ask (Procedure.query (.isDirectory path))

def readFile (path : Files.Path) : Loading (Option String) :=
  ask (Procedure.query (.readFile path))

/-- A home directory is asked for, but the account is unknown. -/
def homeless : LoadFailure :=
  .defect (.defect (.invalidState "Could not determine home directory."))

/-- The path with a home directory in place of its account. -/
def located (path : Files.Path) : Loading Files.Path :=
  match path.account? with
  | none => return path
  | some (account, rest) => do
    match ← ExceptT.lift (Procedure.query (.home account)) with
    | some home => return home.join rest
    | none => throw homeless

/-- Read a settings file.  The home directory of an account may stand in front of its path. -/
def sourceAt (path : Files.Path) : Loading Node.Entries := do
  let text ← readFile (← located path)
  ExceptT.mk (pure (readSource text))

/-- The first of several directories with a settings directory that has a base file. -/
def nearest? : List Files.Path → Loading (Option Files.Path)
  | [] => pure none
  | directory :: rest => do
    let settings := directory.child "config"
    match ← readFile (settings.child baseName) with
    | some _ => return some settings
    | none => nearest? rest

def settingsDirectory (surroundings : Surroundings) : Loading Files.Path := do
  match surroundings.namedDirectory? with
  | some name =>
    let path := Files.Path.ofText name
    if ← isDirectory path then return path
    else throw (.missingDirectory name)
  | none =>
    let found ← nearest? surroundings.directory.ancestors
    return found.getD (surroundings.directory.child "config")

/-- Load the settings.  Values given by the caller come first; with `baseRequired` a missing base
file is a failure. -/
def load (surroundings : Surroundings) (given : Node.Entries) (baseRequired : Bool) :
    Loading Settings := do
  let directory ← surroundings.settingsDirectory
  let basePath := directory.child baseName
  if baseRequired && (← readFile basePath).isNone then throw (.missingBase basePath.text)
  let special ← sourceAt (directory.child surroundings.specialName)
  let base ← sourceAt basePath
  ExceptT.mk (pure (ofSources given surroundings.environment special base))

/-- The settings of the program: those kept from before, or else freshly loaded ones. -/
def loadOnce (surroundings : Surroundings) (kept : Option Settings) :
    Procedure (Except LoadFailure Settings) :=
  match kept with
  | some settings => pure (.ok settings)
  | none => surroundings.load [] true

end Surroundings

end RestartCheck.Settings
