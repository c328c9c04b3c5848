import RestartCheck.Toml.Scalar

/-!
# Settings documents

**Input.**  The text of a TOML 1.0 document: lines that are empty, assign a value to a key, or open
a table or an item of a list of tables.

**Output.**  The table that the document describes, or the first fault.

**Rules of definition.**  A key is assigned once.  A table is opened once; the tables that a dotted
key passes through may be extended by further dotted keys up to the next header, but not opened.
Inline tables and lists are complete where they stand.  Opening a further item of a list of tables
starts with a clean slate below it.

**Algorithm.**  Two lists of key paths say which tables cannot be opened and which values cannot be
extended.  Values, the items of a list and the entries of an inline table are read by a mutual
recursion on a fuel for which the length of the text suffices.

**Results.**
* `isComplete_iff`: what lies below a complete value is complete.
-/

namespace RestartCheck.Toml

/-- A place in the document: the keys from the top. -/
abbrev KeyPath := List String

structure Marks where
  /-- Tables that cannot be opened, or be passed through by a dotted key. -/
  opened : List KeyPath := []
  /-- Inline tables and lists, which cannot be extended. -/
  complete : List KeyPath := []
  /-- Tables that a dotted key passed through since the last header. -/
  passed : List KeyPath := []

namespace Marks

/-- The place cannot be opened. -/
def isOpened (marks : Marks) (path : KeyPath) : Bool :=
  marks.opened.contains path

/-- The place lies in a complete value. -/
def isComplete (marks : Marks) (path : KeyPath) : Bool :=
  marks.complete.any fun known => known.isPrefixOf path

/-- At a header, the tables passed through before cannot be opened any more. -/
def settle (marks : Marks) : Marks :=
  { marks with opened := marks.passed ++ marks.opened, passed := [] }

/-- Forget everything at a place and below it. -/
def clear (marks : Marks) (path : KeyPath) : Marks :=
  { marks with
    opened := marks.opened.filter fun known => !path.isPrefixOf known
    complete := marks.complete.filter fun known => !path.isPrefixOf known }

/-- A path is complete when one of its beginnings is. -/
theorem isComplete_iff {marks : Marks} {path : KeyPath} :
    marks.isComplete path = true ↔ ∃ known ∈ marks.complete, known <+: path := by
  simp [isComplete, List.any_eq_true]

end Marks

/-- Change the entries of the table at a path.  Missing tables are made; in a list of tables the
last item is meant, unless lists are not to be entered. -/
def changeAt (enterLists : Bool) (change : Node.Entries → Except Fault Node.Entries) :
    KeyPath → Node.Entries → Except Fault Node.Entries
  | [], entries => change entries
  | key :: path, entries =>
    match OrderedMap.lookup entries key with
    | none => do
      let inner ← changeAt enterLists change path []
      return OrderedMap.put entries key (.table inner)
    | some (.table inner) => do
      let inner ← changeAt enterLists change path inner
      return OrderedMap.put entries key (.table inner)
    | some (.list items) =>
      match items.getLast? with
      | some (.table inner) =>
        if enterLists then do
          let inner ← changeAt enterLists change path inner
          return OrderedMap.put entries key (.list (items.dropLast ++ [.table inner]))
        else .error .conflict
      | _ => .error .conflict
    | some _ => .error .conflict

/-- Assign a value to a key that has none yet. -/
def assign (key : String) (value : Node) (entries : Node.Entries) : Except Fault Node.Entries :=
  match OrderedMap.lookup entries key with
  | some _ => .error .conflict
  | none => .ok (OrderedMap.put entries key value)

/-- Add an empty table to the list of tables at a key. -/
def appendTable (key : String) (entries : Node.Entries) : Except Fault Node.Entries :=
  match OrderedMap.lookup entries key with
  | none => .ok (OrderedMap.put entries key (.list [.table []]))
  | some (.list items) => .ok (OrderedMap.put entries key (.list (items ++ [.table []])))
  | some _ => .error .conflict

/-- Tables and lists are complete when they are given as values. -/
def isCompound : Node → Bool
  | .table _ => true
  | .list _ => true
  | _ => false

/-! ## Values -/

/-- Read the equals sign between a key and its value. -/
def readEquals (text : List Char) : Except Fault (List Char) :=
  match text with
  | '=' :: rest => .ok (skipBlanks rest)
  | _ => .error .malformed

mutual

def readValue : Nat → List Char → Except Fault (Node × List Char)
  | 0, _ => .error .malformed
  | fuel + 1, text =>
    match text with
    | '"' :: rest => (readBasic rest).map fun (s, rest) => (.text (String.ofList s), rest)
    | '\'' :: rest => (readLiteral rest).map fun (s, rest) => (.text (String.ofList s), rest)
    | 't' :: 'r' :: 'u' :: 'e' :: rest => .ok (.bool true, rest)
    | 'f' :: 'a' :: 'l' :: 's' :: 'e' :: rest => .ok (.bool false, rest)
    | '[' :: rest => do
      let rest ← skipLines rest.length rest
      readItems fuel rest []
    | '\x7b' :: rest =>
      match skipBlanks rest with
      | '\x7d' :: rest => .ok (.table [], rest)
      | rest => readEntries fuel rest [] []
    | _ => readScalar text

/-- Read the remaining items of a list; those read before are in reverse order. -/
def readItems : Nat → List Char → List Node → Except Fault (Node × List Char)
  | 0, _, _ => .error .malformed
  | fuel + 1, text, done =>
    match text with
    | ']' :: rest => .ok (.list done.reverse, rest)
    | _ => do
      let (item, rest) ← readValue fuel text
      let rest ← skipLines rest.length rest
      match rest with
      | ']' :: rest => return (.list (item :: done).reverse, rest)
      | ',' :: rest =>
        let rest ← skipLines rest.length rest
        readItems fuel rest (item :: done)
      | _ => .error .malformed

/-- Read the remaining entries of an inline table, given the entries before and the places of
complete values among them. -/
def readEntries : Nat → List Char → Node.Entries → List KeyPath →
    Except Fault (Node × List Char)
  | 0, _, _, _ => .error .malformed
  | fuel + 1, text, entries, complete => do
    let (key, rest) ← readKey text
    let rest ← readEquals rest
    let (value, rest) ← readValue fuel rest
    if complete.any fun known => known.isPrefixOf key.path then .error .conflict
    else
      let entries ← changeAt false (assign key.stem value) key.parent entries
      match skipBlanks rest with
      | '\x7d' :: rest => return (.table entries, rest)
      | ',' :: rest =>
        readEntries fuel (skipBlanks rest) entries
          (if isCompound value then key.path :: complete else complete)
      | _ => .error .malformed

end

/-! ## Statements -/

/-- The document read so far, and the table that keys are assigned in. -/
structure Draft where
  entries : Node.Entries := []
  marks : Marks := {}
  header : KeyPath := []

/-- The places that a dotted key passes through. -/
def Key.passes (key : Key) (header : KeyPath) : List KeyPath :=
  (List.range key.tail.length).map fun count => header ++ key.path.take (count + 1)

def readAssignment (draft : Draft) (text : List Char) : Except Fault (Draft × List Char) := do
  let (key, rest) ← readKey text
  let rest ← readEquals rest
  let (value, rest) ← readValue (2 * rest.length + 1) rest
  let passes := key.passes draft.header
  if passes.any draft.marks.isOpened || draft.marks.isComplete (draft.header ++ key.parent) then
    .error .conflict
  else
    let entries ← changeAt true (assign key.stem value) (draft.header ++ key.parent) draft.entries
    let complete :=
      if isCompound value then (draft.header ++ key.path) :: draft.marks.complete
      else draft.marks.complete
    let marks := { draft.marks with complete := complete, passed := passes ++ draft.marks.passed }
    return ({ draft with entries := entries, marks := marks }, rest)

def readTableHeader (draft : Draft) (text : List Char) : Except Fault (Draft × List Char) := do
  let (key, rest) ← readKey (skipBlanks text)
  let marks := draft.marks.settle
  if marks.isOpened key.path || marks.isComplete key.path then .error .conflict
  else
    let entries ← changeAt true .ok key.path draft.entries
    match rest with
    | ']' :: rest =>
      return (⟨entries, { marks with opened := key.path :: marks.opened }, key.path⟩, rest)
    | _ => .error .malformed

/-- Read the header that opens a further item of a list of tables. -/
def readItemHeader (draft : Draft) (text : List Char) : Except Fault (Draft × List Char) := do
  let (key, rest) ← readKey (skipBlanks text)
  let marks := draft.marks.settle
  if marks.isComplete key.path then .error .conflict
  else
    let entries ← changeAt true (appendTable key.stem) key.parent draft.entries
    let marks := marks.clear key.path
    match rest with
    | ']' :: ']' :: rest =>
      return (⟨entries, { marks with opened := key.path :: marks.opened }, key.path⟩, rest)
    | _ => .error .malformed

/-- A character that a key may start with. -/
def startsKey (c : Char) : Bool :=
  isKeyChar c || c = '"' || c = '\''

def readStatement (draft : Draft) (text : List Char) : Except Fault (Draft × List Char) :=
  match text with
  | [] => .ok (draft, [])
  | c :: rest =>
    if startsKey c then readAssignment draft text
    else if c = '[' then
      match rest with
      | '[' :: rest => readItemHeader draft rest
      | _ => readTableHeader draft rest
    else if c = '#' ∨ c = '\n' then .ok (draft, text)
    else .error .malformed

def readLines : Nat → Draft → List Char → Except Fault Node.Entries
  | 0, _, _ => .error .malformed
  | fuel + 1, draft, text => do
    let (draft, rest) ← readStatement draft (skipBlanks text)
    let rest ← skipComment (skipBlanks rest)
    match rest with
    | [] => return draft.entries
    | '\n' :: rest => readLines fuel draft rest
    | _ => .error .malformed

/-- Carriage returns before line feeds are dropped. -/
def unifyLineEnds : List Char → List Char
  | '\r' :: '\n' :: rest => '\n' :: unifyLineEnds rest
  | c :: rest => c :: unifyLineEnds rest
  | [] => []

def parse (text : String) : Except Fault Node.Entries :=
  let lines := unifyLineEnds text.toList
  readLines (lines.length + 1) {} lines

end RestartCheck.Toml
