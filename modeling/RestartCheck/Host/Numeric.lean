import RestartCheck.Json.Decoding
import RestartCheck.Text.Parts

/-!
# Numeric host addresses

A host can be given by four numbers between dots, or in brackets by up to eight groups of
hexadecimal digits between colons.

**Results.**
* `isGrouped_of_slash`: nothing with a slash in it is an address.
-/

namespace RestartCheck.Host

/-! ## Four numbers -/

/-- From a place inside a run of digits or right before one, the text goes on with digits and so
many further runs, each after one character of any kind. -/
def hasRuns (inside : Bool) (more : Nat) : List Char → Bool
  | [] => inside && more = 0
  | c :: rest =>
    (c.isDigit && hasRuns true more rest) ||
      (match more with
        | 0 => false
        | more + 1 => inside && c ≠ '\n' && hasRuns false more rest)

/-- The text looks as if four numbers were meant. -/
def looksDotted (text : List Char) : Bool :=
  hasRuns false 3 text

/-- A number up to 255 without leading zeros. -/
def isOctet (text : List Char) : Bool :=
  !text.isEmpty && text.all Char.isDigit && text.length ≤ 3
    && (text = ['0'] || text.head? ≠ some '0') && Decimal.naturalValue text ≤ 255

/-- Four numbers up to 255 between dots. -/
def isQuad (text : List Char) : Bool :=
  let parts := Text.partsWhere (· = '.') text
  parts.length = 4 && parts.all isOctet

/-! ## Groups of hexadecimal digits -/

/-- One to four hexadecimal digits. -/
def isGroup (text : List Char) : Bool :=
  !text.isEmpty && text.length ≤ 4 && text.all fun c => (Json.hexValue? c).isSome

/-- The groups of an address.  Four numbers at its end count as two groups. -/
def groupsOf? (text : List Char) : Option (List (List Char)) :=
  let parts := Text.partsWhere (· = ':') text
  if parts.length < 3 then none
  else
    match parts.getLast? with
    | some last =>
      if last.contains '.' then
        if isQuad last then some (parts.dropLast ++ [['0'], ['0']]) else none
      else some parts
    | none => none

/-- The groups before and after the gap that one empty part between others leaves. -/
def aroundGap? (parts : List (List Char)) : Option (List (List Char) × List (List Char)) :=
  let inner := parts.dropLast.drop 1
  match inner.findIdx? List.isEmpty with
  | none => none
  | some index => some (parts.take (index + 1), parts.drop (index + 2))

/-- An empty part at the far end of one side stands for nothing, if it is all there is. -/
def sideGroups? (side : List (List Char)) (isEnd : List (List Char) → Option (List Char)) :
    Option (List (List Char)) :=
  if isEnd side = some [] then (if side.length = 1 then some [] else none) else some side

/-- Eight groups, or fewer around one gap. -/
def areGroups (parts : List (List Char)) : Bool :=
  match aroundGap? parts with
  | none => parts.length = 8 && parts.all isGroup
  | some (front, back) =>
    match sideGroups? front List.head?, sideGroups? back List.getLast? with
    | some front, some back =>
      parts.length ≤ 9 && front.length + back.length < 8 && (front ++ back).all isGroup
    | _, _ => false

/-- An address of groups, with the name of a zone after a percent sign or without. -/
def isGrouped (text : List Char) : Bool :=
  let address := text.takeWhile (· ≠ '%')
  let zone := (text.dropWhile (· ≠ '%')).drop 1
  let zoneIsSound := !text.contains '%' || (!zone.isEmpty && !zone.contains '%')
  !text.contains '/' && zoneIsSound && ((groupsOf? address).map areGroups).getD false

theorem isGrouped_of_slash {text : List Char} (h : '/' ∈ text) : isGrouped text = false := by
  simp [isGrouped, h]

end RestartCheck.Host
