import Mathlib.Data.List.Forall2
import RestartCheck.Json.Path
import RestartCheck.Json.Shape
import RestartCheck.Json.Literal

/-!
# What readings of decoded values establish

Checks read members and paths with fallbacks and compare what they find.  A reading that yields
something other than its fallback has found it in the value itself, so a comparison with anything
but the fallback is evidence about the value.

**Results.**
* `find_of_extractOr`, `lookup_of_memberOr`: a value other than the fallback was found.
* `eq_array_of_elements`, `eq_object_of_presentValues`: what has elements or values of its own.
* `same_string_iff`: only the text itself equals a text.
* `eq_string_of_colon_head`: only a text is shown with a colon in front.
-/

namespace RestartCheck
namespace Json

section Sequences

variable {α β : Type}

theorem bind_eq_ok_iff
    {known : Except Failure α} {next : α → Except Failure β} {value : β} :
    (known >>= next) = .ok value ↔ ∃ first, known = .ok first ∧ next first = .ok value := by
  cases known <;> simp [bind, Except.bind]

/-- Reading every item succeeds when reading each of them does. -/
theorem mapM_eq_ok_iff
    {read : α → Except Failure β} {items : List α} {values : List β} :
    items.mapM read = .ok values ↔
      List.Forall₂ (fun item value => read item = .ok value) items values := by
  induction items generalizing values with
  | nil => cases values <;> simp [pure, Except.pure]
  | cons item rest ih =>
      rw [List.mapM_cons, bind_eq_ok_iff]
      constructor
      · rintro ⟨first, hfirst, hrest⟩
        obtain ⟨others, hothers, hvalues⟩ := bind_eq_ok_iff.mp hrest
        cases hvalues
        exact List.Forall₂.cons hfirst (ih.mp hothers)
      · intro hall
        cases hall with
        | cons hfirst hothers =>
            exact ⟨_, hfirst, bind_eq_ok_iff.mpr ⟨_, ih.mpr hothers, rfl⟩⟩

end Sequences

/-! ## Members and paths -/

theorem isTrue_iff
    {data : Json} :
    data.isTrue = true ↔ data = .bool true := by
  cases data with
  | bool value => cases value <;> simp [isTrue]
  | _ => simp [isTrue]

theorem isObject_iff
    {data : Json} :
    data.isObject = true ↔ ∃ members, data = .object members := by
  cases data <;> simp [isObject]

theorem object_ne_empty_of_lookup
    {members : Members} {name : String} {value : Json}
    (hlookup : OrderedMap.lookup members name = some value) :
    Json.object members ≠ .object [] := by
  intro hempty
  cases hempty
  cases hlookup

/-- A member that is not null is there. -/
theorem Members.getOrNull_eq_iff
    {members : Members} {name : String} {value : Json}
    (hvalue : value ≠ .null) :
    members.getOrNull name = value ↔ OrderedMap.lookup members name = some value := by
  unfold Members.getOrNull
  cases OrderedMap.lookup members name with
  | none => simpa using hvalue.symm
  | some found => simp

/-- Only the literal true counts as true, and not a member that is missing. -/
theorem Members.isTrue_getOrNull_iff
    {members : Members} {name : String} :
    (members.getOrNull name).isTrue = true ↔
      OrderedMap.lookup members name = some (.bool true) := by
  rw [isTrue_iff]
  exact getOrNull_eq_iff (by simp)

theorem memberOr_eq_ok_iff
    {data fallback value : Json} {name : String} :
    data.memberOr name fallback = .ok value ↔
      ∃ members,
        data = .object members ∧ (OrderedMap.lookup members name).getD fallback = value := by
  cases data <;> simp [memberOr, membersOf, Except.map]

theorem lookup_of_memberOr
    {data fallback value : Json} {name : String}
    (hread : data.memberOr name fallback = .ok value)
    (hvalue : value ≠ fallback) :
    ∃ members, data = .object members ∧ OrderedMap.lookup members name = some value := by
  obtain ⟨members, rfl, hmember⟩ := memberOr_eq_ok_iff.mp hread
  refine ⟨members, rfl, ?_⟩
  cases hlookup : OrderedMap.lookup members name with
  | none =>
      rw [hlookup] at hmember
      exact absurd hmember.symm hvalue
  | some found =>
      rw [hlookup] at hmember
      exact congrArg some hmember

theorem extractOr_eq_ok_iff
    {data fallback value : Json} {path : String} :
    data.extractOr path fallback = .ok value ↔
      ∃ found, data.find path = .ok found ∧ found.getD fallback = value := by
  unfold extractOr
  cases data.find path <;> simp

theorem extract_eq_ok_iff
    {data value : Json} {path : String} :
    data.extract path = .ok value ↔ data.find path = .ok (some value) := by
  unfold extract
  cases data.find path with
  | error fault => simp
  | ok found => cases found <;> simp

theorem find_of_extractOr
    {data fallback value : Json} {path : String}
    (hread : data.extractOr path fallback = .ok value)
    (hvalue : value ≠ fallback) :
    data.find path = .ok (some value) := by
  obtain ⟨found, hfind, rfl⟩ := extractOr_eq_ok_iff.mp hread
  cases found with
  | none => exact absurd rfl hvalue
  | some inner => exact hfind

/-! ## Elements and values -/

/-- Elements that are no texts are those of an array. -/
theorem eq_array_of_elements
    {data item : Json} {items : List Json}
    (helements : data.elements = .ok items)
    (hmem : item ∈ items)
    (hitem : ∀ text, item ≠ .string text) :
    data = .array items := by
  cases data with
  | array found => simpa [elements] using helements
  | object members =>
      cases helements
      obtain ⟨member, _, rfl⟩ := List.mem_map.mp hmem
      exact absurd rfl (hitem _)
  | string text =>
      cases helements
      obtain ⟨c, _, rfl⟩ := List.mem_map.mp hmem
      exact absurd rfl (hitem _)
  | _ => cases helements

theorem eq_array_of_presentElements
    {data item : Json} {items : List Json}
    (helements : data.presentElements = .ok items)
    (hmem : item ∈ items)
    (hitem : ∀ text, item ≠ .string text) :
    data = .array items := by
  unfold presentElements at helements
  split at helements
  · exact eq_array_of_elements helements hmem hitem
  · cases helements
    cases hmem

/-- The values of something that has members are those of an object. -/
theorem eq_object_of_presentValues
    {data first : Json} {rest : List Json}
    (hvalues : data.presentValues = .ok (first :: rest)) :
    ∃ members, data = .object members ∧ members.map Prod.snd = first :: rest := by
  unfold presentValues at hvalues
  split at hvalues
  · cases data with
    | object members => exact ⟨members, rfl, by simpa [membersOf, Except.map] using hvalues⟩
    | _ => cases hvalues
  · cases hvalues

theorem truthy_eq_false_of_presentValues
    {data : Json}
    (hvalues : data.presentValues = .ok []) :
    data.truthy = false := by
  cases htruthy : data.truthy with
  | false => rfl
  | true =>
      unfold presentValues at hvalues
      rw [if_pos htruthy] at hvalues
      cases data with
      | object members =>
          have hempty : members = [] := by
            simpa [membersOf, Except.map] using hvalues
          rw [hempty] at htruthy
          cases htruthy
      | _ => cases hvalues

/-! ## Comparisons -/

/-- Only the text itself equals a text. -/
theorem same_string_iff
    {value : Json} {text : String} :
    value.same (.string text) = true ↔ value = .string text := by
  cases value with
  | string other => simp [same]
  | _ => simp [same, sameNumber, asNumber]

theorem same_null_left_iff
    {value : Json} :
    Json.null.same value = true ↔ value = .null := by
  cases value <;> simp [same]

/-- The value at the path is there and equals the expected one. -/
def HoldsAt
    (data : Json)
    (path : String)
    (expected : Json) : Prop :=
  ∃ actual, data.find path = .ok (some actual) ∧ actual.same expected = true

/-- Nothing but a value that is there equals an expected value other than null. -/
theorem holdsAt_of_extractOr
    {data actual expected : Json} {path : String}
    (hread : data.extractOr path .null = .ok actual)
    (hsame : actual.same expected = true)
    (hexpected : expected ≠ .null) :
    data.HoldsAt path expected := by
  refine ⟨actual, find_of_extractOr hread ?_, hsame⟩
  rintro rfl
  exact hexpected (same_null_left_iff.mp hsame)

/-! ## Colons

Numbers and constants are shown without any colon, and a list or an object begins with a bracket. -/

open Decimal

theorem colon_notMem_toDigits
    (n : Nat) :
    ':' ∉ Nat.toDigits 10 n := by
  intro hmem
  have hdigit : ':'.isDigit = true := Nat.isDigit_of_mem_toDigits (by decide) (by decide) hmem
  exact absurd hdigit (by decide)

theorem colon_notMem_render
    (layout : Layout)
    (digits : Nat)
    (place : Int) :
    ':' ∉ (layout.render digits place).toList := by
  have htake : ∀ count, ':' ∉ (Nat.toDigits 10 digits).take count :=
    fun _ hmem => colon_notMem_toDigits digits (List.mem_of_mem_take hmem)
  have hdrop : ∀ count, ':' ∉ (Nat.toDigits 10 digits).drop count :=
    fun _ hmem => colon_notMem_toDigits digits (List.mem_of_mem_drop hmem)
  unfold Layout.render
  simp only
  split
  · split
    · simp [colon_notMem_toDigits]
    · split
      · simp [colon_notMem_toDigits]
      · simp [htake, hdrop]
  · have hfraction :
        ':' ∉ (if ((Nat.toDigits 10 digits).drop 1).isEmpty then ""
          else "." ++ String.ofList ((Nat.toDigits 10 digits).drop 1)).toList := by
      split
      · simp
      · simpa using hdrop 1
    have hsign : ∀ power : Int, ':' ∉ (if power < 0 then "-" else "+").toList := by
      intro power
      split
      · simp
      · simp
    simp only [String.toList_append, String.toList_ofList, List.mem_append, not_or]
    exact ⟨⟨⟨⟨htake 1, hfraction⟩, by simp⟩, hsign _⟩, by simp, colon_notMem_toDigits _⟩

theorem colon_notMem_floatText
    (value : Float) :
    ':' ∉ (floatText value).toList := by
  have hsigned : ∀ (negative : Bool) (text : String),
      ':' ∉ text.toList → ':' ∉ (signed negative text).toList := by
    intro negative text htext
    cases negative with
    | false => exact htext
    | true => simpa [signed] using htext
  unfold floatText
  split
  · simp
  · exact hsigned _ _ (by simp)
  · split
    · exact hsigned _ _ (by simp)
    · exact hsigned _ _ (colon_notMem_render _ _ _)

theorem colon_notMem_toString
    (value : Int) :
    ':' ∉ (toString value).toList := by
  rw [Int.toString_eq_repr, Int.repr_eq_if]
  split
  · rw [Nat.toList_repr]
    exact colon_notMem_toDigits _
  · rw [String.toList_append, Nat.toList_repr]
    simp [colon_notMem_toDigits]

/-- Only a text is shown with a colon in front. -/
theorem eq_string_of_colon_head
    {value : Json}
    (hhead : value.display.toList.head? = some ':') :
    ∃ text, value = .string text := by
  cases value with
  | string text => exact ⟨text, rfl⟩
  | null => exact absurd hhead (by decide)
  | bool flag => cases flag <;> exact absurd hhead (by decide)
  | int number =>
      exact absurd (List.mem_of_mem_head? hhead) (colon_notMem_toString number)
  | float number =>
      exact absurd (List.mem_of_mem_head? hhead) (colon_notMem_floatText number)
  | array items => simp [display, literal, enclosed] at hhead
  | object members => simp [display, literal, enclosed] at hhead

end Json
end RestartCheck
