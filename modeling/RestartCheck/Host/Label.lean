import RestartCheck.Host.Letter
import RestartCheck.Host.Mark
import RestartCheck.Host.Punycode
import RestartCheck.Text.Parts

/-!
# Labels of host names

A host name consists of labels between dots.  A label with letters outside ASCII must be sound, and
is then written in ASCII behind `xn--`.

**Sound labels.**  A sound label is composed, consists of letters, does not start with a mark, has
no hyphen at an end nor two of them in its third and fourth place, and keeps to one direction.  A
few characters are only allowed next to certain others.

**Results.**
* `length_asciiLabel?`: a written label has at most 63 characters.
-/

namespace RestartCheck.Host

/-! ## Characters that need a context -/

/-- A letter before or after joins its neighbour, past all marks in between. -/
def joins (ranges : Text.CharRanges) (letters : List Char) : Bool :=
  match letters.dropWhile isNonspacing with
  | c :: _ => ranges.has c
  | [] => false

/-- The place of the marks that silence the vowel of a letter. -/
def silencing : Nat := 9

/-- The character may stand between the given ones.  Those before it are in reverse order. -/
def fits (before : List Char) (c : Char) (after : List Char) : Bool :=
  let isSilenced := (before.head?.map place) = some silencing
  let others := before ++ after
  match c with
  | '\u200c' =>
    isSilenced || (joins forwardJoiningRanges before && joins backwardJoiningRanges after)
  | '\u200d' => isSilenced
  | '·' => before.head? = some 'l' && after.head? = some 'l'
  | '\u0375' => (after.head?.map greekRanges.has).getD false
  | '\u05f3' | '\u05f4' => (before.head?.map hebrewRanges.has).getD false
  | '\u30fb' => others.any japaneseRanges.has
  | c =>
    if 0x660 ≤ c.toNat ∧ c.toNat ≤ 0x669 then
      !others.any fun d => 0x6f0 ≤ d.toNat && d.toNat ≤ 0x6f9
    else if 0x6f0 ≤ c.toNat ∧ c.toNat ≤ 0x6f9 then
      !others.any fun d => 0x660 ≤ d.toNat && d.toNat ≤ 0x669
    else isLetter c

/-- Every character may stand where it does. -/
def allFit (before : List Char) : List Char → Bool
  | [] => true
  | c :: rest => fits before c rest && allFit (c :: before) rest

/-! ## Directions -/

/-- The direction that a character is written in. -/
inductive Direction
  | leftToRight
  | rightToLeft
  | europeanDigit
  | arabicDigit
  | mark
  | neutral
deriving DecidableEq, Repr

def directionOf (c : Char) : Direction :=
  if isNonspacing c then .mark
  else if europeanDigitRanges.has c then .europeanDigit
  else if arabicDigitRanges.has c then .arabicDigit
  else if neutralRanges.has c then .neutral
  else if rightToLeftRanges.has c then .rightToLeft
  else .leftToRight

/-- A label with anything that is written from right to left is so as a whole: it starts with such a
letter and ends with one or with a digit, apart from marks, and its digits are of one kind. -/
def keepsDirection (label : List Char) : Bool :=
  let directions := label.map directionOf
  if directions.contains .rightToLeft || directions.contains .arabicDigit then
    directions.head? = some .rightToLeft && !directions.contains .leftToRight
      && !(directions.contains .europeanDigit && directions.contains .arabicDigit)
      && ([some .rightToLeft, some .europeanDigit, some .arabicDigit].contains
        (directions.reverse.dropWhile (· = .mark)).head?)
  else true

/-! ## Labels -/

/-- No hyphen stands at an end, and no two in the third and fourth place. -/
def hasSoundHyphens (label : List Char) : Bool :=
  label.head? ≠ some '-' && label.getLast? ≠ some '-' && (label.drop 2).take 2 ≠ ['-', '-']

def isSound (label : List Char) : Bool :=
  !label.isEmpty && isComposed label && hasSoundHyphens label && !(label.head?.any isMark)
    && allFit [] label && keepsDirection label

def asciiMark : List Char := "xn--".toList

def isSoundAscii (label : List Char) : Bool :=
  if asciiMark.isPrefixOf label then
    let text := label.drop asciiMark.length
    !text.isEmpty && text.getLast? ≠ some '-' && ((Punycode.decode? text).any isSound)
  else isSound label

/-- Characters that a label may have. -/
def labelLimit : Nat := 63

/-- A label in ASCII, if it is sound and not too long. -/
def asciiLabel? (label : List Char) : Option (List Char) :=
  if label.all fun c => c.toNat < 0x80 then
    if isSoundAscii label ∧ label.length ≤ labelLimit then some label else none
  else
    let text := asciiMark ++ Punycode.encode label
    if isSound label ∧ text.length ≤ labelLimit then some text else none

/-- No label is longer than the limit. -/
theorem length_asciiLabel? {label text : List Char} (h : asciiLabel? label = some text) :
    text.length ≤ labelLimit := by
  simp only [asciiLabel?] at h
  split at h <;> split at h
  · next hsound => cases h; exact hsound.2
  · cases h
  · next hsound => cases h; exact hsound.2
  · cases h

/-! ## Names -/

def isDot (c : Char) : Bool :=
  ['.', '\u3002', '\uff0e', '\uff61'].contains c

/-- Characters that a name may have, apart from a dot at its end. -/
def nameLimit : Nat := 253

/-- A host name in ASCII, if all its labels are sound.  A dot at the end is kept. -/
def asciiName? (name : List Char) : Option (List Char) :=
  let labels := Text.partsWhere isDot name
  let hasDot := labels.getLast? = some []
  match (if hasDot then labels.dropLast else labels).mapM asciiLabel? with
  | none => none
  | some [] => none
  | some labels =>
    let text := ['.'].intercalate labels
    if text.length ≤ nameLimit then some (if hasDot then text ++ ['.'] else text) else none

end RestartCheck.Host
