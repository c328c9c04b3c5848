import RestartCheck.Decimal.Rounding
import RestartCheck.OrderedMap

/-!
# Decoded JSON values

A decoded value keeps what the text said: integers of any size apart from floating point numbers,
and the members of an object in the order of their first appearance, each name once.

**Equality.**  `Json.same` compares by content.  Numbers are compared by value across the two
number forms, and the booleans count as one and zero.  The order of members does not matter.
-/

namespace RestartCheck

/-- A decoded JSON value. -/
inductive Json
  | null
  | bool (value : Bool)
  | int (value : Int)
  | float (value : Float)
  | string (value : String)
  | array (items : List Json)
  | object (members : List (String × Json))
deriving Inhabited

namespace Json

abbrev Members := OrderedMap String Json

/-- How many levels of nesting are gone through when a value is read or told.  The limit is one on
nested calls, so the number of levels depends on the calls that are open already; this is what is
left of it where answers are read. -/
def nestingLimit : Nat := 980

/-- The member of a name, or null when there is none. -/
def Members.getOrNull (members : Members) (name : String) : Json :=
  (OrderedMap.lookup members name).getD .null

/-- Empty values, zero, false and null do not count as present. -/
def truthy : Json → Bool
  | .null => false
  | .bool value => value
  | .int value => value != 0
  | .float value => value != 0.0
  | .string value => value != ""
  | .array items => !items.isEmpty
  | .object members => !members.isEmpty

/-- Equality of two numbers; booleans count as numbers. -/
def sameNumber : Json → Json → Bool
  | .int a, .int b => a == b
  | .int a, .float b => Decimal.floatIsInt b a
  | .float a, .int b => Decimal.floatIsInt a b
  | .float a, .float b => a == b
  | _, _ => false

/-- A boolean as the number it counts as. -/
def asNumber : Json → Json
  | .bool value => .int (if value then 1 else 0)
  | value => value

mutual

/-- Equality by content. -/
def same : Json → Json → Bool
  | .null, .null => true
  | .string a, .string b => a == b
  | .array a, .array b => sameItems a b
  | .object a, .object b => a.length == b.length && sameMembers a b
  | .bool a, b => sameNumber (asNumber (.bool a)) b.asNumber
  | .int a, b => sameNumber (.int a) b.asNumber
  | .float a, b => sameNumber (.float a) b.asNumber
  | _, _ => false

/-- Equality of two sequences, item by item. -/
def sameItems : List Json → List Json → Bool
  | [], [] => true
  | a :: as, b :: bs => same a b && sameItems as bs
  | _, _ => false

/-- Every member has an equal member of the same name on the other side. -/
def sameMembers : List (String × Json) → List (String × Json) → Bool
  | [], _ => true
  | (name, value) :: rest, others =>
    (match OrderedMap.lookup others name with
      | some other => same value other
      | none => false)
      && sameMembers rest others

end

def isObject : Json → Bool
  | .object _ => true
  | _ => false

end Json

end RestartCheck
