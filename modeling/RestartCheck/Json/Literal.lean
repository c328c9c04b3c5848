import RestartCheck.Decimal.Numeral
import RestartCheck.Json.Basic

/-!
# JSON values inside messages

Messages show values as literals: `None`, `True` and `False` for the constants, quoted texts,
brackets and braces with one space after each comma and colon.  A text that is the whole of what is
shown stands without quotes.

Not every value can be told: an integer may have too many digits, and a value may be nested too
deeply.  What comes first on the way through the value is the obstacle.
-/

namespace RestartCheck.Json

/-- Parts between an opening and a closing mark, separated by commas. -/
def enclosed (opening closing : String) (parts : List String) : String :=
  opening ++ ", ".intercalate parts ++ closing

mutual

def literal : Json → String
  | .null => "None"
  | .bool value => if value then "True" else "False"
  | .int value => toString value
  | .float value => Decimal.floatText value
  | .string value => Text.quoted value
  | .array items => enclosed "[" "]" (literalItems items)
  | .object members => enclosed "\x7b" "\x7d" (literalMembers members)

def literalItems : List Json → List String
  | [] => []
  | item :: rest => item.literal :: literalItems rest

def literalMembers : List (String × Json) → List String
  | [] => []
  | (name, value) :: rest => (Text.quoted name ++ ": " ++ value.literal) :: literalMembers rest

end

/-- What keeps a value from being told. -/
inductive Obstacle
  /-- An integer has too many digits. -/
  | overlong
  /-- The levels of nesting do not suffice. -/
  | tooDeep
deriving DecidableEq, Repr

mutual

/-- The first obstacle on the way through a value, with a number of levels of nesting allowed. -/
def obstacle? : Nat → Json → Option Obstacle
  | _, .int value => if (Decimal.integerText? value).isSome then none else some .overlong
  | 0, .array _ => some .tooDeep
  | 0, .object _ => some .tooDeep
  | levels + 1, .array items => obstacleIn? levels items
  | levels + 1, .object members => obstacleUnder? levels members
  | _, _ => none

def obstacleIn? (levels : Nat) : List Json → Option Obstacle
  | [] => none
  | item :: rest => (item.obstacle? levels).or (obstacleIn? levels rest)

def obstacleUnder? (levels : Nat) : List (String × Json) → Option Obstacle
  | [] => none
  | (_, value) :: rest => (value.obstacle? levels).or (obstacleUnder? levels rest)

end

/-- A value inside a message, unless it cannot be told. -/
def told (value : Json) : Except Obstacle String :=
  match value.obstacle? nestingLimit with
  | none => .ok value.literal
  | some obstacle => .error obstacle

/-- A value as it stands in running text. -/
def display : Json → String
  | .string value => value
  | value => value.literal

@[simp] theorem display_string (text : String) : display (.string text) = text := rfl

end RestartCheck.Json
