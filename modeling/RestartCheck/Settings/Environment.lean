import RestartCheck.Json.Decoding
import RestartCheck.Settings.Shape

/-!
# Settings from environment variables

A variable whose name starts with `PHOENIX_`, in any case, gives a setting; two underscores lead
into a table.  A whole table can be given as JSON, and variables for single settings in it lie on
top.

**Results.**
* `splitKeys_of_no_double`: a name without two underscores side by side is one key.
-/

namespace RestartCheck.Environment

abbrev Variables := OrderedMap String String

/-- How the names of the variables start, in lower case. -/
def nameStart : String := "phoenix_"

/-- The variables by their names in lower case.  Of several with one name the last counts. -/
def lowered (environment : Variables) : Variables :=
  OrderedMap.ofPairs (environment.map fun (name, value) => (Text.lower name, value))

/-- The keys that a name consists of, separated by two underscores. -/
def splitKeys : List Char → List (List Char)
  | [] => [[]]
  | '_' :: '_' :: rest => [] :: splitKeys rest
  | c :: rest =>
    match splitKeys rest with
    | first :: others => (c :: first) :: others
    | [] => [[c]]

/-- The keys of a variable that lies in a section, and its value. -/
def keysIn? (name : String) (entry : String × String) : Option (List String × String) :=
  let start := (nameStart ++ name ++ "__").toList
  if start.isPrefixOf entry.1.toList then
    some ((splitKeys (entry.1.toList.drop start.length)).map String.ofList, entry.2)
  else none

/-- The shape of the setting that keys lead to.  A field is also found under its name with the start
of variable names in front. -/
def shapeAt? (shape : Shape) : List String → Option Shape
  | [] => some shape
  | key :: keys =>
    let bare := if nameStart.toList.isPrefixOf key.toList then
        String.ofList (key.toList.drop nameStart.length)
      else key
    match (shape.child? key).or (shape.child? bare) with
    | some child => shapeAt? child keys
    | none => none

/-- The node that a text stands for.  A text for a table or a list must be JSON; an empty text is
taken as it is. -/
def nodeOf (shape : Option Shape) (text : String) : Except Json.DecodeError Node :=
  if (shape.map Shape.isCompound).getD false && text ≠ "" then (Json.decode text).map Node.ofJson
  else .ok (.text text)

/-- Set the value at the end of a path of keys.  A value that is no table stays in the way of paths
through it. -/
def insertAt (value : Node) : List String → Node.Entries → Node.Entries
  | [], entries => entries
  | [key], entries => OrderedMap.put entries key value
  | key :: keys, entries =>
    match OrderedMap.lookup entries key with
    | none => OrderedMap.put entries key (.table (insertAt value keys []))
    | some (.table inner) => OrderedMap.put entries key (.table (insertAt value keys inner))
    | some _ => entries

/-- Set the values of the variables in a section, one after the other. -/
def insertAll (shape : Shape) :
    List (List String × String) → Node.Entries → Except Json.DecodeError Node.Entries
  | [], entries => .ok entries
  | (keys, text) :: rest, entries =>
    match nodeOf (shapeAt? shape keys) text with
    | .ok value => insertAll shape rest (insertAt value keys entries)
    | .error e => .error e

/-- What the variables say about one section, if anything. -/
def sectionOf (environment : Variables) (name : String) (shape : Shape) :
    Except Json.DecodeError (Option Node) := do
  let parts := insertAll shape (environment.filterMap (keysIn? name)) []
  match OrderedMap.lookup environment (nameStart ++ name) with
  | none =>
    let entries ← parts
    return if entries.isEmpty then none else some (.table entries)
  | some text =>
    match Node.ofJson (← Json.decode text) with
    | .null => return none
    | .table whole => return some (Node.overlay (.table (← parts)) (.table whole))
    | value => return some value

/-- What the variables say about one setting, if anything. -/
def settingOf (environment : Variables) (name : String) (shape : Shape) :
    Except Json.DecodeError (Option Node) :=
  if shape.isCompound then
    (sectionOf environment name shape).map fun node => node.map (Node.align shape)
  else .ok ((OrderedMap.lookup environment (nameStart ++ name)).map Node.text)

/-- What the variables say about the given settings. -/
def entriesFor (environment : Variables) :
    List (String × Shape) → Except Json.DecodeError Node.Entries
  | [] => .ok []
  | (name, shape) :: rest => do
    let node ← settingOf environment name shape
    let others ← entriesFor environment rest
    return (node.map fun node => (name, node)).toList ++ others

def entries (environment : Variables) : Except Json.DecodeError Node.Entries :=
  entriesFor (lowered environment) Shape.settings

/-- A name without a doubled underscore is one key. -/
theorem splitKeys_of_no_double {text : List Char}
    (h : ∀ front back, text ≠ front ++ '_' :: '_' :: back) : splitKeys text = [text] := by
  fun_induction splitKeys text with
  | case1 => rfl
  | case2 rest ih => exact absurd rfl (h [] rest)
  | case3 c rest hne first others heq ih =>
    rw [ih fun front back e => h (c :: front) back (by rw [e]; rfl)] at heq
    cases heq
    rfl
  | case4 c rest hne heq ih =>
    rw [ih fun front back e => h (c :: front) back (by rw [e]; rfl)] at heq
    cases heq

end RestartCheck.Environment
