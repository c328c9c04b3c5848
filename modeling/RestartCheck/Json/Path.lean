import RestartCheck.Failure

/-!
# Paths into decoded values

A path is a text of segments separated by dots.  On an object a segment is the name of a member; on
an array a segment of digits is an index counted from zero.  Every other combination leads nowhere.
An index segment is recognised by its characters being digit-like and then read as a number, which
some of them do not permit.

**Results.**
* `walk_append`: walking a concatenation is walking one part after the other.
-/

namespace RestartCheck.Json

def segments : List Char → List (List Char)
  | [] => [[]]
  | c :: rest =>
    if c = '.' then [] :: segments rest
    else
      match segments rest with
      | first :: others => (c :: first) :: others
      | [] => [[c]]

/-- The segment consists of digits or of characters that look like digits. -/
def isIndex (segment : List Char) : Bool :=
  !segment.isEmpty && segment.all Text.isDigitLike

def step (current : Json) (segment : List Char) : Except Decimal.NumeralFault (Option Json) :=
  match current with
  | .object members => .ok (OrderedMap.lookup members (String.ofList segment))
  | .array items =>
    if isIndex segment then (Decimal.readNatural segment).map fun index => items[index]?
    else .ok none
  | _ => .ok none

/-- Follow several segments. -/
def walk (current : Json) : List (List Char) → Except Decimal.NumeralFault (Option Json)
  | [] => .ok (some current)
  | segment :: rest =>
    match step current segment with
    | .ok (some next) => walk next rest
    | .ok none => .ok none
    | .error fault => .error fault

/-- The value at a path, if the path leads to one. -/
def find (data : Json) (path : String) : Except Decimal.NumeralFault (Option Json) :=
  walk data (segments path.toList)

/-- The value at a path; it is fatal when there is none. -/
def extract (data : Json) (path : String) : Except Failure Json :=
  match data.find path with
  | .ok (some value) => .ok value
  | .ok none => .error (.fatal ("response has no value at [" ++ path ++ "]") data)
  | .error fault => .error (Failure.ofNumeral fault)

/-- The value at a path, or the given one when there is none. -/
def extractOr (data : Json) (path : String) (fallback : Json) : Except Failure Json :=
  match data.find path with
  | .ok found => .ok (found.getD fallback)
  | .error fault => .error (Failure.ofNumeral fault)

/-- A path in two parts is walked one part after the other. -/
theorem walk_append (current : Json) (front back : List (List Char)) :
    walk current (front ++ back) =
      match walk current front with
      | .ok (some next) => walk next back
      | .ok none => .ok none
      | .error fault => .error fault := by
  induction front generalizing current with
  | nil => rfl
  | cons segment rest ih =>
    simp only [List.cons_append, walk]
    cases step current segment with
    | error fault => rfl
    | ok found =>
      cases found with
      | none => rfl
      | some next => exact ih next

end RestartCheck.Json
