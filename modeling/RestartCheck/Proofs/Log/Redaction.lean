import Mathlib.Data.List.Forall2
import RestartCheck.Proofs.Log.Addresses

/-!
# What redaction hides and what it keeps

A value under a sensitive name is replaced without being looked at, at whatever depth the name
stands. Everything else is kept in its place: the names and their order, the lengths of the arrays,
and every text in which there is no address.

**Results.**
* `redact_eq_of_sameOpenly`: values that differ only under sensitive names are redacted alike.
* `keeps_redact`: what becomes of every part of a value.
* `hides_sensitive_values_only`: both together, for whole events.
-/

namespace RestartCheck
namespace Redaction

/-! ## Hidden differences -/

mutual

/-- The values differ only in what stands under sensitive names. -/
inductive SameOpenly : Json → Json → Prop
  | refl (value : Json) : SameOpenly value value
  | array
      {items items' : List Json}
      (hitems : List.Forall₂ SameOpenly items items') :
      SameOpenly (.array items) (.array items')
  | object
      {members members' : Json.Members}
      (hmembers : List.Forall₂ SameMember members members') :
      SameOpenly (.object members) (.object members')

/-- The members have one name.  If it is not sensitive, their values differ only in what stands
under sensitive names. -/
inductive SameMember : String × Json → String × Json → Prop
  | hidden
      {name : String}
      (hname : Text.lower name ∈ sensitiveNames)
      (value value' : Json) :
      SameMember (name, value) (name, value')
  | shown
      {value value' : Json}
      (name : String)
      (hvalue : SameOpenly value value') :
      SameMember (name, value) (name, value')

end

theorem isSensitive_iff
    {name : String} :
    isSensitive name = true ↔ Text.lower name ∈ sensitiveNames := by
  simp [isSensitive]

mutual

/-- Values that differ only under sensitive names are redacted alike. -/
theorem redact_eq_of_sameOpenly :
    ∀ {value value' : Json}, SameOpenly value value' → redact value = redact value'
  | _, _, .refl _ => rfl
  | .array _, _, .array hitems => by
      rw [redact, redact, redactItems_eq_of_sameOpenly hitems]
  | .object _, _, .object hmembers => by
      rw [redact, redact, redactMembers_eq_of_sameMember hmembers]

theorem redactItems_eq_of_sameOpenly :
    ∀ {items items' : List Json},
      List.Forall₂ SameOpenly items items' → redactItems items = redactItems items'
  | [], _, .nil => rfl
  | _ :: _, _, .cons hitem hrest => by
      rw [redactItems, redactItems, redact_eq_of_sameOpenly hitem,
        redactItems_eq_of_sameOpenly hrest]

theorem redactMembers_eq_of_sameMember :
    ∀ {members members' : Json.Members},
      List.Forall₂ SameMember members members' → redactMembers members = redactMembers members'
  | [], _, .nil => rfl
  | (_, _) :: _, _, .cons (.hidden hname _ _) hrest => by
      rw [redactMembers, redactMembers, redactMembers_eq_of_sameMember hrest,
        if_pos (isSensitive_iff.mpr hname), if_pos (isSensitive_iff.mpr hname)]
  | (_, _) :: _, _, .cons (.shown _ hvalue) hrest => by
      rw [redactMembers, redactMembers, redactMembers_eq_of_sameMember hrest,
        redact_eq_of_sameOpenly hvalue]

end

/-! ## What is kept -/

mutual

/-- The second value is the first, but for the texts with an address in it and for what stands under
sensitive names. -/
inductive Keeps : Json → Json → Prop
  | null : Keeps .null .null
  | bool (value : Bool) : Keeps (.bool value) (.bool value)
  | int (value : Int) : Keeps (.int value) (.int value)
  | float (value : Float) : Keeps (.float value) (.float value)
  | clean
      {text : String}
      (hnone : ¬HasAddress text.toList) :
      Keeps (.string text) (.string text)
  | addressed
      {text text' : String}
      (hsome : HasAddress text.toList)
      (hsubstituted : Substituted text.toList text'.toList) :
      Keeps (.string text) (.string text')
  | array
      {items items' : List Json}
      (hitems : List.Forall₂ Keeps items items') :
      Keeps (.array items) (.array items')
  | object
      {members members' : Json.Members}
      (hmembers : List.Forall₂ KeepsMember members members') :
      Keeps (.object members) (.object members')

/-- The second member is the first, but that a value under a sensitive name is hidden. -/
inductive KeepsMember : String × Json → String × Json → Prop
  | hidden
      {name : String}
      (hname : Text.lower name ∈ sensitiveNames)
      (value : Json) :
      KeepsMember (name, value) (name, .string hiddenValue)
  | shown
      {name : String} {value value' : Json}
      (hname : Text.lower name ∉ sensitiveNames)
      (hvalue : Keeps value value') :
      KeepsMember (name, value) (name, value')

end

mutual

/-- What becomes of a value. -/
theorem keeps_redact : ∀ value, Keeps value (redact value)
  | .null => .null
  | .bool value => .bool value
  | .int value => .int value
  | .float value => .float value
  | .string text => by
      have hsubstituted := substituted_hideAddresses text
      by_cases hsome : HasAddress text.toList
      · exact .addressed hsome hsubstituted
      · rw [redact, hideAddresses_eq_self hsome]
        exact .clean hsome
  | .array items => .array (keeps_redactItems items)
  | .object members => .object (keeps_redactMembers members)

theorem keeps_redactItems : ∀ items, List.Forall₂ Keeps items (redactItems items)
  | [] => .nil
  | item :: rest => .cons (keeps_redact item) (keeps_redactItems rest)

theorem keeps_redactMembers : ∀ members, List.Forall₂ KeepsMember members (redactMembers members)
  | [] => .nil
  | (name, value) :: rest => by
      rw [redactMembers]
      refine .cons ?_ (keeps_redactMembers rest)
      split
      · next hname => exact .hidden (isSensitive_iff.mp hname) value
      · next hname => exact .shown (mt isSensitive_iff.mpr hname) (keeps_redact value)

end

/-- **Sensitive values are hidden, and nothing else is.**  Two events that differ only in the values
under sensitive names are the same after the redaction.  Outside of these values, an event keeps its
names in their order, the lengths of its arrays, and every value in which there is no address. -/
theorem hides_sensitive_values_only :
    (∀ event event' : Json.Members,
      List.Forall₂ SameMember event event' → redactMembers event = redactMembers event') ∧
    ∀ event, List.Forall₂ KeepsMember event (redactMembers event) :=
  ⟨fun _ _ hsame => redactMembers_eq_of_sameMember hsame, keeps_redactMembers⟩

/-- One user with a password, which is a text in one event and a list in the other. -/
theorem hides_password_of_user :
    redactMembers
        [("users", .array [.object [("name", .string "ann"), ("Password", .string "sesame")]])] =
      redactMembers
        [("users", .array [.object [("name", .string "ann"), ("Password", .array [.int 1])]])] := by
  have huser : SameOpenly
      (.object [("name", .string "ann"), ("Password", .string "sesame")])
      (.object [("name", .string "ann"), ("Password", .array [.int 1])]) :=
    .object (.cons (.shown _ (.refl _)) (.cons (.hidden (by decide) _ _) .nil))
  exact hides_sensitive_values_only.1 _ _ (.cons (.shown _ (.array (.cons huser .nil))) .nil)

end Redaction
end RestartCheck
