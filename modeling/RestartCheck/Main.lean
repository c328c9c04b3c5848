import RestartCheck.Client.Relay
import RestartCheck.CommandLine.Program
import RestartCheck.Log.Rendering

/-!
# The command line

The program is run on the machine it is started on: its environment variables, its files, its clock
and its source of chance.  Log entries go to the standard error.  Requests are written to the
standard output, one JSON object in a line, and a relay that speaks to the service writes its
answers to the standard input in the same way.
-/

namespace RestartCheck.CommandLine

/-- What the machine remembers between two questions. -/
structure Desk where
  logging : LoggingSettings := {}
  connection : Option Connection := none

/-- Answering questions on the machine. -/
abbrev Machine := StateT Desk IO

namespace Machine

/-- Write a log entry as the settings in force ask for. -/
def writeEntry (entry : LogEntry) : Machine Unit := do
  match (← get).logging.line? entry with
  | .ok (some line) => (← IO.getStderr).putStr line
  | _ => pure ()

/-- Hand a request to the relay and wait for its answer. -/
def exchange (wire : WireRequest) : IO (Except TransportFault WireReply) := do
  let output ← IO.getStdout
  output.putStrLn (((Relay.requestObject wire).encode? .line).getD "")
  output.flush
  let line ← (← IO.getStdin).getLine
  return Relay.ofAnswer ((Json.decode line).toOption.getD .null)

/-- Send a request over the open connection. -/
def send (request : Request) : Machine (Except Failure Response) := do
  match (← get).connection with
  | none => return .error (.defect (.invalidState "there is no connection"))
  | some connection =>
    match connection.prepare request with
    | .error failure => return .error failure
    | .ok wire =>
      let outcome := settle wire.address (← exchange wire)
      match Relay.entryOf request outcome with
      | some entry => writeEntry entry
      | none => pure ()
      return Connection.conclude request outcome

/-- A failure that ends the program, by its kind and its wording if that can be told. -/
def announcement (failure : Failure) : String :=
  failure.kindName ++ ": " ++ (failure.message.toOption.getD "<exception str() failed>")

def open? (settings : ClientSettings) : Machine Unit := do
  match Connection.ofSettings settings with
  | .ok connection => modify fun desk => { desk with connection := some connection }
  | .error failure => throw (IO.userError (announcement failure))

/-- What is found at a path, unless the path is too long to be used. -/
def usable {α : Type} (path : Files.Path) (found : IO α) : IO (Except Files.NameTooLong α) := do
  if path.isTooLong then return .error .mk else return .ok (← found)

/-- A file in the working directory or elsewhere. -/
def textOf? (path : Files.Path) : IO (Option String) := do
  let file := (← IO.currentDir) / path.text
  if (← file.pathExists) && !(← file.isDir) then return some (← IO.FS.readFile file)
  else return none

/-- There is a directory in the working directory or elsewhere. -/
def hasDirectory (path : Files.Path) : IO Bool := do
  let file := (← IO.currentDir) / path.text
  file.isDir

/-- The home directory of an account, as the machine lists it. -/
def homeOf? (account : String) : IO (Option Files.Path) := do
  if account = "" then return (← IO.getEnv "HOME").map Files.Path.ofText
  let lines := (← IO.FS.readFile "/etc/passwd").splitOn "\n"
  return lines.findSome? fun line =>
    let fields := line.splitOn ":"
    if fields.head? = some account then (fields[5]?).map Files.Path.ofText else none

def drawLetters (alphabet : String) : Nat → IO String
  | 0 => return ""
  | count + 1 => do
    let letters := alphabet.toList
    let position ← IO.rand 0 (letters.length - 1)
    let others ← drawLetters alphabet count
    return String.singleton (letters.getD position ' ') ++ others

def respond : (query : Query) → Machine query.Answer
  | .call request => send request
  | .now => return (← IO.monoNanosNow).toFloat / 1e9
  | .sleep seconds => IO.sleep (seconds * 1000.0).toUInt32
  | .drawNumber low high => return low + (← IO.rand 0 (high - low).toNat)
  | .drawLetters alphabet count => drawLetters alphabet count
  | .log entry => writeEntry entry
  | .setUpLogging settings => modify fun desk => { desk with logging := settings }
  | .connect settings => open? settings
  | .disconnect =>
    modify fun desk => { desk with connection := desk.connection.map Connection.close }
  | .isDirectory path => usable path (hasDirectory path)
  | .readFile path => usable path (textOf? path)
  | .home account => homeOf? account

end Machine

/-- One entry of the environment of the process. -/
def variableOf (entry : String) : String × String :=
  (String.ofList (entry.toList.takeWhile (· ≠ '=')),
    String.ofList ((entry.toList.dropWhile (· ≠ '=')).drop 1))

def environment : IO Environment.Variables := do
  let text ← IO.FS.readFile "/proc/self/environ"
  return ((text.splitOn "\x00").filter (· ≠ "")).map variableOf

/-- Tell how the program ended, unless a report has done so. -/
def announce : Exit → IO Unit
  | .refused .help => IO.println usage
  | .refused .misuse => IO.eprintln usage
  | .status _ => return ()
  | .crashed failure => IO.eprintln (Machine.announcement failure)

def run (arguments : List String) : IO Nat := do
  let surroundings : Settings.Surroundings :=
    ⟨← environment, Files.Path.ofText (← IO.currentDir).toString⟩
  let procedure := program surroundings arguments amplePatience
  let (exit, _) ← (procedure.interpret Machine.respond).run {}
  match exit with
  | some exit =>
    announce exit
    return exit.code
  | none => return failedStatus

end RestartCheck.CommandLine

/-- The entry point: the status of the process is that of the program. -/
def main (arguments : List String) : IO UInt32 := do
  return (← RestartCheck.CommandLine.run arguments).toUInt32
