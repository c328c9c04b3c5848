import RestartCheck.Failure
import RestartCheck.Text.Blank

/-!
# Reading versions

**Input.**  A text of the form `major.minor[.patch][-qualifier]`, with white space around it and a
`v` before it allowed.  The components are runs of decimal digits of any script; the qualifier
follows a dash or a dot and consists of ASCII letters, digits and dots.

**Output.**  The version.  The qualifiers `alphaN`, `betaN` and `rcN` in any case, with `N` from 1
to 24, name a build before the release; every other qualifier names the release itself.

**Algorithm.**  A dot and digits after the minor component are the patch component if the rest of
the text then still has the required form, and otherwise part of the qualifier.
-/

namespace RestartCheck.Version

/-- The parts of a version text as written. -/
structure Parts where
  major : List Char
  minor : List Char
  patch : Option (List Char)
  qualifier : Option (List Char)
deriving DecidableEq, Repr

/-- Letters, digits and dots of ASCII. -/
def isQualifierChar (c : Char) : Bool :=
  c.isAlphanum || c = '.'

/-- The qualifier when the text consists of one, or of none, and white space after it. -/
def qualifierAtEnd? (text : List Char) : Option (Option (List Char)) :=
  let blankEnd := if text.all Text.isBlank then some none else none
  match text with
  | c :: rest =>
    let qualifier := rest.takeWhile isQualifierChar
    if (c = '-' ∨ c = '.') ∧ !qualifier.isEmpty ∧
        (rest.dropWhile isQualifierChar).all Text.isBlank then
      some (some qualifier)
    else blankEnd
  | [] => blankEnd

/-- The patch component and the qualifier that make up the text after the minor component. -/
def patchAndQualifier? (text : List Char) : Option (Option (List Char) × Option (List Char)) :=
  let withPatch : Option (Option (List Char) × Option (List Char)) :=
    match text with
    | '.' :: rest =>
      let digits := rest.takeWhile Text.isDecimalDigit
      if digits.isEmpty then none
      else (qualifierAtEnd? (rest.dropWhile Text.isDecimalDigit)).map (some digits, ·)
    | _ => none
  match withPatch with
  | some parts => some parts
  | none => (qualifierAtEnd? text).map (none, ·)

/-- Drop the optional letter in front of a version. -/
def dropMark : List Char → List Char
  | 'v' :: rest => rest
  | text => text

/-- Take a version text apart. -/
def Parts.ofChars? (text : List Char) : Option Parts :=
  let text := dropMark (text.dropWhile Text.isBlank)
  let major := text.takeWhile Text.isDecimalDigit
  if major.isEmpty then none
  else
    match text.dropWhile Text.isDecimalDigit with
    | '.' :: rest =>
      let minor := rest.takeWhile Text.isDecimalDigit
      if minor.isEmpty then none
      else
        (patchAndQualifier? (rest.dropWhile Text.isDecimalDigit)).map fun (patch, qualifier) =>
          ⟨major, minor, patch, qualifier⟩
    | _ => none

/-- The kinds of builds with their names, as characters. -/
def preReleaseNames : List (List Char × PreRelease) :=
  [("alpha".toList, .alpha), ("beta".toList, .beta), ("rc".toList, .candidate)]

/-- The kind and the digits of a qualifier that names a build before the release. -/
def preRelease? (qualifier : List Char) : Option (PreRelease × List Char) :=
  let lowered := qualifier.map Char.toLower
  preReleaseNames.findSome? fun (name, kind) =>
    let digits := qualifier.drop name.length
    if name.isPrefixOf lowered && !digits.isEmpty && digits.all Text.isDecimalDigit then
      some (kind, digits)
    else none

def component (digits : List Char) : Except Failure Int :=
  match Decimal.readNatural digits with
  | .ok n => .ok n
  | .error fault => .error (Failure.ofNumeral fault)

/-- The build component that a qualifier stands for. -/
def buildOf (text : String) (qualifier : Option (List Char)) : Except Failure Int :=
  match qualifier.bind preRelease? with
  | none => .ok releaseBuild
  | some (kind, digits) =>
    match component digits with
    | .error e => .error e
    | .ok number =>
      if 1 ≤ number ∧ number ≤ 24 then .ok (kind.base + number)
      else
        .error (.configuration ("pre-release number out of range: " ++ Text.quoted text))

def parse (text : String) : Except Failure Version :=
  match Parts.ofChars? text.toList with
  | none => .error (.configuration ("invalid service version: " ++ Text.quoted text))
  | some parts => do
    let build ← buildOf text parts.qualifier
    let major ← component parts.major
    let minor ← component parts.minor
    let patch ← component (parts.patch.getD ['0'])
    return ⟨major, minor, patch, build⟩

end RestartCheck.Version
