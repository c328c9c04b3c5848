import RestartCheck.Text.Slashes

/-!
# Paths of files

A path names a file or a directory, either from the root or from the working directory.  Doubled
slashes, slashes at the end and single dots carry no meaning; double dots are kept, since what they
lead to depends on the files.  Exactly two slashes in front are kept too: systems may give them a
meaning of their own.

**Results.**
* `climb_not_mem`: names that were followed hold no double dots.
-/

namespace RestartCheck.Files

/-- A path.  One from the root may be written with two slashes in front. -/
structure Path where
  absolute : Bool
  segments : List String
  doubled : Bool := false
deriving DecidableEq, Repr, Inhabited

inductive NameTooLong
  | mk
deriving DecidableEq, Repr

namespace Path

/-- The part carries no meaning. -/
def isIdle (segment : List Char) : Bool :=
  segment.isEmpty || segment = ['.']

def ofText (text : String) : Path :=
  let slashes := (text.toList.takeWhile (· = '/')).length
  let segments := (Text.splitSlashes text.toList).filter fun segment => !isIdle segment
  ⟨slashes ≠ 0, segments.map String.ofList, slashes = 2⟩

def text (path : Path) : String :=
  let names := "/".intercalate path.segments
  if path.absolute then (if path.doubled then "//" else "/") ++ names
  else if path.segments.isEmpty then "." else names

/-- Octets that a name on the way to a file may have. -/
def nameLimit : Nat := 255

/-- Octets that a path may have. -/
def lengthLimit : Nat := 4095

/-- The path, or a name in it, has too many octets. -/
def isTooLong (path : Path) : Bool :=
  lengthLimit < path.text.utf8ByteSize
    || path.segments.any fun segment => nameLimit < segment.utf8ByteSize

/-- A path seen from another. -/
def join (outer inner : Path) : Path :=
  if inner.absolute then inner else { outer with segments := outer.segments ++ inner.segments }

/-- The account whose home directory stands in front of the path, and the path from there.  A tilde
alone means the account that is running. -/
def account? (path : Path) : Option (String × Path) :=
  match path.absolute, path.segments with
  | false, first :: rest =>
    match first.toList with
    | '~' :: name => some (String.ofList name, ⟨false, rest, false⟩)
    | _ => none
  | _, _ => none

/-- A name inside a directory. -/
def child (path : Path) (name : String) : Path :=
  path.join (ofText name)

/-- The path and the directories above it, the nearest first. -/
def ancestors (path : Path) : List Path :=
  (List.range (path.segments.length + 1)).map fun count =>
    { path with segments := path.segments.take (path.segments.length - count) }

/-- Follow names through directories without links: double dots take back the name before them.  The
names so far are in reverse order. -/
def climb (kept : List String) : List String → List String
  | [] => kept.reverse
  | name :: rest => if name = ".." then climb (kept.drop 1) rest else climb (name :: kept) rest

/-- Names that were followed hold no double dots. -/
theorem climb_not_mem {kept : List String} (h : ".." ∉ kept) (names : List String) :
    ".." ∉ climb kept names := by
  induction names generalizing kept with
  | nil => simpa [climb] using h
  | cons name rest ih =>
    unfold climb
    split
    · exact ih fun hmem => h (List.mem_of_mem_drop hmem)
    · next hne =>
      refine ih fun hmem => ?_
      rcases List.mem_cons.1 hmem with heq | hin
      · exact hne heq.symm
      · exact h hin

end Path

end RestartCheck.Files
