import RestartCheck.Files.Path
import RestartCheck.OrderedMap

/-!
# Trees of files

A tree of files holds texts under paths from the root.  A directory exists when it was made or when
there is a file below it.  A path with a name that is too long for a file system cannot be used.

**Results.**
* `lookup_put`: a file that was written is read back.
-/

namespace RestartCheck.Files

/-- Files by the names on the way to them, and directories made without a file in them. -/
structure Tree where
  files : OrderedMap (List String) String := []
  made : List (List String) := []
deriving Inhabited

/-- Why a path leads nowhere. -/
inductive Obstacle
  | missing
  | nameTooLong
deriving DecidableEq, Repr

namespace Tree

def isDirectoryAt (tree : Tree) (names : List String) : Bool :=
  names.isEmpty || tree.made.any names.isPrefixOf
    || tree.files.any fun file => names.isPrefixOf file.1 && names != file.1

/-- Follow the segments of a path from a directory.  Everything passed through must be a directory;
double dots lead to the directory above. -/
def follow (tree : Tree) (names : List String) :
    List String → Except Obstacle (List String)
  | [] => .ok names
  | segment :: rest =>
    if !tree.isDirectoryAt names then .error .missing
    else if segment = ".." then follow tree names.dropLast rest
    else if Path.nameLimit < segment.utf8ByteSize then .error .nameTooLong
    else follow tree (names ++ [segment]) rest

/-- The names from the root that a path stands for in a working directory. -/
def resolve (tree : Tree) (directory path : Path) : Except Obstacle (List String) :=
  if Path.lengthLimit < path.text.utf8ByteSize then .error .nameTooLong
  else tree.follow [] (directory.join path).segments

/-- What is found at the end of a path, unless the path cannot be used at all. -/
def inspect {α : Type} (tree : Tree) (directory path : Path) (missing : α)
    (found : List String → α) : Except NameTooLong α :=
  match tree.resolve directory path with
  | .ok names => .ok (found names)
  | .error .missing => .ok missing
  | .error .nameTooLong => .error .mk

def isDirectory (tree : Tree) (directory path : Path) : Except NameTooLong Bool :=
  tree.inspect directory path false tree.isDirectoryAt

/-- The text of the file that a path leads to. -/
def read? (tree : Tree) (directory path : Path) : Except NameTooLong (Option String) :=
  tree.inspect directory path none (OrderedMap.lookup tree.files)

def put (tree : Tree) (names : List String) (content : String) : Tree :=
  { tree with files := OrderedMap.put tree.files names content }

/-- A file that was put is found. -/
theorem lookup_put (tree : Tree) (names : List String) (content : String) :
    OrderedMap.lookup (tree.put names content).files names = some content := by
  simp [put]

end Tree

end RestartCheck.Files
