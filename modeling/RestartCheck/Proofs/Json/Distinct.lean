import RestartCheck.Proofs.Json.Decoded

/-!
# Distinct names

When a text gives a name to several members of an object, the last of them counts.  So no object
that was decoded has two members of one name, at any depth.

**Results.**
* `OrderedMap.lookup_of_perm`: a lookup does not depend on the order of the entries.
* `isDistinct_of_decode`: decoded objects have distinct names.
-/

namespace RestartCheck

namespace OrderedMap

variable {κ ν : Type} [DecidableEq κ] {map more : OrderedMap κ ν}

theorem lookup_eq_some_iff_mem
    {key : κ} {value : ν}
    (hdistinct : (keys map).Nodup) :
    lookup map key = some value ↔ (key, value) ∈ map :=
  ⟨mem_of_lookup_eq_some, fun hmem => lookup_of_mem hdistinct hmem⟩

/-- A lookup does not depend on the order of the entries. -/
theorem lookup_of_perm
    (hdistinct : (keys map).Nodup)
    (hperm : map.Perm more)
    (key : κ) :
    lookup map key = lookup more key := by
  have hdistinct' : (keys more).Nodup := (hperm.map Prod.fst).nodup_iff.mp hdistinct
  refine Option.ext fun value => ?_
  rw [lookup_eq_some_iff_mem hdistinct, lookup_eq_some_iff_mem hdistinct', hperm.mem_iff]

end OrderedMap

namespace Json

/-! ## Distinct names -/

/-- No object in the value has two members of one name. -/
inductive IsDistinct : Json → Prop
  | null : IsDistinct .null
  | bool (value : Bool) : IsDistinct (.bool value)
  | int (value : Int) : IsDistinct (.int value)
  | float (value : Float) : IsDistinct (.float value)
  | string (value : String) : IsDistinct (.string value)
  | array {items : List Json} (hitems : ∀ item ∈ items, IsDistinct item) :
      IsDistinct (.array items)
  | object {members : Members}
      (hnames : (OrderedMap.keys members).Nodup)
      (hmembers : ∀ member ∈ members, IsDistinct member.2) :
      IsDistinct (.object members)

theorem isDistinct_ofPairs
    {pairs : List (String × Json)}
    (hpairs : ∀ pair ∈ pairs, IsDistinct pair.2) :
    IsDistinct (.object (OrderedMap.ofPairs pairs)) := by
  have hempty : (OrderedMap.keys ([] : Members)).Nodup := List.nodup_nil
  exact .object (OrderedMap.nodup_keys_update hempty pairs)
    (OrderedMap.forall_mem_ofPairs hpairs)

theorem isDistinct_of_words
    {word : List Char × Json}
    (hword : word ∈ words) :
    IsDistinct word.2 := by
  simp only [words, List.mem_cons, List.not_mem_nil, or_false] at hword
  rcases hword with rfl | rfl | rfl | rfl | rfl | rfl
  · exact .null
  · exact .bool true
  · exact .bool false
  · exact .float _
  · exact .float _
  · exact .float _

theorem isDistinct_of_number
    {number : NumberText} {value : Json}
    (hvalue : number.value = .ok value) :
    IsDistinct value := by
  unfold NumberText.value at hvalue
  split at hvalue
  · split at hvalue
    · cases hvalue
      exact .int _
    · cases hvalue
  · cases hvalue
    exact .float _

theorem isInherited_isDistinct : IsInherited IsDistinct where
  word _ := isDistinct_of_words
  number _ _ := isDistinct_of_number
  text := .string
  array _ := .array
  object _ := isDistinct_ofPairs

/-- No object that was decoded has two members of one name. -/
theorem isDistinct_of_decode
    {text : String} {data : Json}
    (hdecode : decode text = .ok data) :
    IsDistinct data :=
  isInherited_isDistinct.of_decode hdecode

end Json
end RestartCheck
