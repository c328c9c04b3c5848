import RestartCheck.Settings.Node
import RestartCheck.Text.LowerCase

/-!
# The shape of the settings

Which names the settings have, and what kind of node is expected under each.  A table may hold other
names as well; they are ignored.
-/

namespace RestartCheck

/-- The kind of node that is expected. -/
inductive Shape
  /-- A single value. -/
  | single
  /-- A list of values. -/
  | several
  /-- A table with named fields. -/
  | group (fields : List (String × Shape))
deriving Inhabited

namespace Shape

/-- Lists and tables are written as JSON where only text can be given. -/
def isCompound : Shape → Bool
  | .single => false
  | .several => true
  | .group _ => true

def poll : Shape := .group [("interval", .single), ("timeout", .single)]

/-- How the service is reached. -/
def client : Shape :=
  .group [("base_url", .single), ("username", .single), ("password", .single),
    ("timeout", .single), ("verify_tls", .single)]

/-- How the run can be observed. -/
def observability : Shape :=
  .group [("logging", .group [("level", .single), ("format", .single), ("redact_pii", .single)])]

def scenarios : Shape :=
  .group
    [("single_record_enabled", .single),
     ("incompatible_index_enabled", .single),
     ("security_store", .group [("enabled", .single), ("store_name", .single), ("poll", poll)]),
     ("job_persistence", .group [("enabled", .single), ("job_id", .single),
       ("num_docs", .single), ("accepted_states", .several), ("poll", poll)]),
     ("watcher", .group [("enabled", .single), ("min_hits", .single), ("poll", poll)])]

def settings : List (String × Shape) :=
  [("phase", .single), ("old_cluster_version", .single), ("upgraded_version", .single),
   ("client", client), ("observability", observability), ("scenarios", scenarios)]

/-- The field with a name, in any case. -/
def fieldOf? (fields : List (String × Shape)) (name : String) : Option (String × Shape) :=
  fields.find? fun field => field.1 == Text.lower name

def child? (shape : Shape) (name : String) : Option Shape :=
  match shape with
  | .group fields => (fieldOf? fields name).map Prod.snd
  | _ => none

end Shape

namespace Node

/-- The entries whose keys spell the fields in any case, under the names of the fields.  Of several
keys for one field the first counts. -/
def alignTop (fields : List (String × Shape)) (entries : Entries) : Entries :=
  fields.filterMap fun field =>
    (entries.find? fun entry => Text.lower entry.1 == field.1).map fun entry => (field.1, entry.2)

mutual

/-- Rename the keys of a table, and of the tables in it, that spell a field in another case. -/
def align (shape : Shape) : Node → Node
  | .table entries =>
    match shape with
    | .group fields => .table (OrderedMap.ofPairs (alignEntries fields entries))
    | _ => .table entries
  | node => node

/-- Rename the keys of entries, and of the tables in them. -/
def alignEntries (fields : List (String × Shape)) :
    List (String × Node) → List (String × Node)
  | [] => []
  | (key, value) :: rest =>
    let entry :=
      match Shape.fieldOf? fields key with
      | some (field, shape) => (field, align shape value)
      | none => (key, value)
    entry :: alignEntries fields rest

end

end Node

end RestartCheck
