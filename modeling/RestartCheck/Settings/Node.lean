import RestartCheck.Json.Basic

/-!
# Trees of settings

A tree of settings is what a settings file, the environment or a caller hands over before anything
is checked: tables of named nodes with plain values at the leaves.  The same tree serves every
source, so that several sources can be laid over each other.

**Layers.**  A tree laid over another keeps its own values, and the tables that both have in the
same place are merged key by key.  Lists are values and replace each other.

**Results.**
* `overlay_value`: what is no table hides whatever lies below it.
* `overlayEntries_nil`: an empty table hides nothing.
-/

namespace RestartCheck

/-- A tree of settings.  A moment is a date or a time, which no setting accepts. -/
inductive Node
  | null
  | bool (value : Bool)
  | int (value : Int)
  | float (value : Float)
  | text (value : String)
  | moment
  | list (items : List Node)
  | table (entries : List (String × Node))
deriving Inhabited

namespace Node

abbrev Entries := OrderedMap String Node

def isTable : Node → Bool
  | .table _ => true
  | _ => false

mutual

/-- A decoded JSON value as a tree. -/
def ofJson : Json → Node
  | .null => .null
  | .bool value => .bool value
  | .int value => .int value
  | .float value => .float value
  | .string value => .text value
  | .array items => .list (ofItems items)
  | .object members => .table (ofMembers members)

def ofItems : List Json → List Node
  | [] => []
  | item :: rest => ofJson item :: ofItems rest

/-- The members of an object as entries. -/
def ofMembers : List (String × Json) → List (String × Node)
  | [] => []
  | (name, value) :: rest => (name, ofJson value) :: ofMembers rest

end

mutual

/-- Lay the first tree over the second. -/
def overlay : Node → Node → Node
  | .table upper, .table lower => .table (overlayEntries upper lower)
  | upper, _ => upper

/-- Lay entries over the entries of a table. -/
def overlayEntries : List (String × Node) → Entries → Entries
  | [], lower => lower
  | (key, value) :: rest, lower =>
    let merged :=
      match OrderedMap.lookup lower key with
      | some below => overlay value below
      | none => value
    overlayEntries rest (OrderedMap.put lower key merged)

end

/-- The node that a path of keys leads to through tables. -/
def at? (node : Node) : List String → Option Node
  | [] => some node
  | key :: path =>
    match node with
    | .table entries =>
      match OrderedMap.lookup entries key with
      | some child => child.at? path
      | none => none
    | _ => none

/-- What is no table hides whatever lies below it. -/
theorem overlay_value {upper : Node} (h : upper.isTable = false) (lower : Node) :
    overlay upper lower = upper := by
  cases upper with
  | table entries => cases h
  | null | bool | int | float | text | moment | list => simp [overlay]

@[simp] theorem overlayEntries_nil (lower : Entries) : overlayEntries [] lower = lower := by
  simp [overlayEntries]

end Node

end RestartCheck
