import RestartCheck.Failure

/-!
# Answers of unexpected shape

Checks look into decoded answers without knowing their shape.  Looking for a member in something
that is no object, or stepping through something that has no elements, is a defect of the answer
that ends the action.

**Results.**
* `elements_array`, `memberOr_object`: on the expected shapes nothing can go wrong.
-/

namespace RestartCheck.Json

def membersOf : Json → Except Failure Members
  | .object members => .ok members
  | _ => .error (.defect .noSuchOperation)

/-- The member of an object, or a fallback when it has none of that name. -/
def memberOr (data : Json) (name : String) (fallback : Json) : Except Failure Json :=
  (membersOf data).map fun members => (OrderedMap.lookup members name).getD fallback

/-- The member of an object, or null. -/
def member (data : Json) (name : String) : Except Failure Json :=
  data.memberOr name .null

/-- The elements in order: the items of an array, the names of an object's members, or the
characters of a text. -/
def elements : Json → Except Failure (List Json)
  | .array items => .ok items
  | .object members => .ok (members.map fun member => .string member.1)
  | .string text => .ok (text.toList.map fun c => .string (String.singleton c))
  | _ => .error (.defect .wrongType)

/-- The elements of a value that counts as present, and none of one that does not. -/
def presentElements (data : Json) : Except Failure (List Json) :=
  if data.truthy then data.elements else .ok []

/-- The values of an object's members, and none of a value that does not count as present. -/
def presentValues (data : Json) : Except Failure (List Json) :=
  if data.truthy then (membersOf data).map fun members => members.map Prod.snd else .ok []

/-- The value is the literal true, and nothing that merely equals it. -/
def isTrue : Json → Bool
  | .bool true => true
  | _ => false

@[simp] theorem elements_array (items : List Json) : elements (.array items) = .ok items := rfl

@[simp] theorem memberOr_object (members : Members) (name : String) (fallback : Json) :
    memberOr (.object members) name fallback =
      .ok ((OrderedMap.lookup members name).getD fallback) := rfl

end RestartCheck.Json
