import RestartCheck.Decimal.Numeral

/-!
# Service versions

A version has four components.  The build component is 99 for a release and smaller for the builds
that precede it: 1 to 24 for alpha builds, 26 to 49 for beta builds and 51 to 74 for release
candidates.  Comparing the components from left to right therefore puts every build in its place.

A component may be any integer, but an integer of too many digits is not written, and then the
version has no text.

**Results.**
* `Version.compare_self`: no version differs from itself.
-/

namespace RestartCheck

structure Version where
  major : Int
  minor : Int := 0
  patch : Int := 0
  build : Int := 99
deriving DecidableEq, Repr, Inhabited

namespace Version

def releaseBuild : Int := 99

/-- The version with the given components, of which there are one to four.  Missing ones are those
of a release. -/
def ofParts? : List Int → Option Version
  | [major] => some ⟨major, 0, 0, releaseBuild⟩
  | [major, minor] => some ⟨major, minor, 0, releaseBuild⟩
  | [major, minor, patch] => some ⟨major, minor, patch, releaseBuild⟩
  | [major, minor, patch, build] => some ⟨major, minor, patch, build⟩
  | _ => none

/-- The version names a release and not a build before it. -/
def isRelease (v : Version) : Bool :=
  v.build == releaseBuild

/-- Components are compared from left to right. -/
def compare (a b : Version) : Ordering :=
  (Ord.compare a.major b.major).then <|
    (Ord.compare a.minor b.minor).then <|
      (Ord.compare a.patch b.patch).then (Ord.compare a.build b.build)

instance : Ord Version := ⟨Version.compare⟩

instance : LE Version := ⟨fun a b => a.compare b ≠ .gt⟩

instance : LT Version := ⟨fun a b => a.compare b = .lt⟩

instance (a b : Version) : Decidable (a ≤ b) :=
  inferInstanceAs (Decidable (a.compare b ≠ .gt))

instance (a b : Version) : Decidable (a < b) :=
  inferInstanceAs (Decidable (a.compare b = .lt))

/-- The three kinds of builds that precede a release. -/
inductive PreRelease
  | alpha
  | beta
  | candidate
deriving DecidableEq, Repr

/-- How a kind of build is written. -/
def PreRelease.text : PreRelease → String
  | .alpha => "alpha"
  | .beta => "beta"
  | .candidate => "rc"

/-- The build component just below the first build of a kind. -/
def PreRelease.base : PreRelease → Int
  | .alpha => 0
  | .beta => 25
  | .candidate => 50

/-- The kind of build that a build component is written as. -/
def PreRelease.ofBuild (build : Int) : PreRelease :=
  if 50 < build then .candidate else if 25 < build then .beta else .alpha

/-- The first three components, unless one of them is not written. -/
def baseText? (v : Version) : Option String := do
  let major ← Decimal.integerText? v.major
  let minor ← Decimal.integerText? v.minor
  let patch ← Decimal.integerText? v.patch
  return major ++ "." ++ minor ++ "." ++ patch

/-- How a version is written, unless a number in it is not. -/
def text? (v : Version) : Option String := do
  let base ← v.baseText?
  if v.isRelease then return base
  else
    let kind := PreRelease.ofBuild v.build
    let number ← Decimal.integerText? (v.build - kind.base)
    return base ++ "-" ++ kind.text ++ number

/-- No version differs from itself. -/
@[simp] theorem compare_self (v : Version) : v.compare v = .eq := by
  simp [compare]

end Version

end RestartCheck
