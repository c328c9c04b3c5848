import RestartCheck.Json.Decoding

/-!
# Properties of decoded values

A reader builds a value from its parts: words, numbers and texts, and arrays and objects of what has
been read before.  When a text gives a name to several members, the last of them counts, so an
object is made of pairs.

**Results.**
* `OrderedMap.exists_mem_of_mem_update`: the values of a map that is made of pairs.
* `IsInherited.of_decode`: a property that each way to build a value passes on is a property of
  everything that is decoded.
-/

namespace RestartCheck

namespace OrderedMap

variable {κ ν : Type} [DecidableEq κ] {map more : OrderedMap κ ν}

theorem mem_put
    {key : κ} {value : ν} {entry : κ × ν}
    (hmem : entry ∈ put map key value) :
    entry ∈ map ∨ entry.2 = value := by
  induction map with
  | nil => exact Or.inr (by rw [List.mem_singleton.mp hmem])
  | cons first rest ih =>
      obtain ⟨known, old⟩ := first
      rw [put_cons] at hmem
      split at hmem
      · rcases List.mem_cons.mp hmem with rfl | hrest
        · exact Or.inr rfl
        · exact Or.inl (List.mem_cons_of_mem _ hrest)
      · rcases List.mem_cons.mp hmem with rfl | hrest
        · exact Or.inl List.mem_cons_self
        · exact (ih hrest).imp_left (List.mem_cons_of_mem _)

/-- The values of a map that was made of pairs are values of the pairs. -/
theorem exists_mem_of_mem_update
    {entry : κ × ν}
    (hmem : entry ∈ update map more) :
    entry ∈ map ∨ ∃ pair ∈ more, pair.2 = entry.2 := by
  induction more generalizing map with
  | nil => exact Or.inl hmem
  | cons pair rest ih =>
      rcases ih hmem with hput | ⟨other, hother, hvalue⟩
      · exact (mem_put hput).imp_right fun hvalue => ⟨pair, List.mem_cons_self, hvalue.symm⟩
      · exact Or.inr ⟨other, List.mem_cons_of_mem _ hother, hvalue⟩

/-- What holds of the values of the pairs holds of the values of the map that is made of them. -/
theorem forall_mem_ofPairs
    {P : ν → Prop} {pairs : List (κ × ν)}
    (hpairs : ∀ pair ∈ pairs, P pair.2) :
    ∀ entry ∈ ofPairs pairs, P entry.2 := by
  intro entry hmem
  rcases exists_mem_of_mem_update hmem with hnone | ⟨pair, hpair, hvalue⟩
  · cases hnone
  · exact hvalue ▸ hpairs pair hpair

end OrderedMap

namespace Json

/-- Each way in which a reader builds a value passes the property on. -/
structure IsInherited (P : Json → Prop) : Prop where
  word : ∀ word ∈ words, P word.2
  number : ∀ number value, NumberText.value number = .ok value → P value
  text : ∀ text, P (.string text)
  array : ∀ items, (∀ item ∈ items, P item) → P (.array items)
  object : ∀ pairs, (∀ pair ∈ pairs, P pair.2) → P (.object (OrderedMap.ofPairs pairs))

namespace IsInherited

variable {P : Json → Prop}

theorem of_readScalar
    {cursor rest : Cursor} {value : Json}
    (hP : IsInherited P)
    (hread : readScalar cursor = .ok (value, rest)) :
    P value := by
  unfold readScalar at hread
  split at hread
  · next word found hword =>
      cases hread
      exact hP.word _ (List.mem_of_find?_eq_some hword)
  · unfold readNumber at hread
    split at hread
    · cases hread
    · next number _ =>
        cases hvalue : number.value with
        | error fault =>
            rw [hvalue] at hread
            cases hread
        | ok found =>
            rw [hvalue] at hread
            cases hread
            exact hP.number _ _ hvalue

theorem of_readValue_succ
    {fuel depth : Nat} {cursor rest : Cursor} {value : Json}
    (hP : IsInherited P)
    (hitems : ∀ depth cursor value rest,
      readItems fuel depth cursor [] = .ok (value, rest) → P value)
    (hmembers : ∀ depth cursor value rest,
      readMembers fuel depth cursor [] = .ok (value, rest) → P value)
    (hread : readValue (fuel + 1) depth cursor = .ok (value, rest)) :
    P value := by
  unfold readValue at hread
  split at hread
  · cases hread
  · split at hread
    · cases hread
      exact hP.text _
    · cases hread
  · split at hread
    · cases hread
    · simp only at hread
      split at hread
      · cases hread
        exact hP.array _ (List.forall_mem_nil _)
      · exact hitems _ _ _ _ hread
  · split at hread
    · cases hread
    · simp only at hread
      split at hread
      · cases hread
        exact hP.object [] (List.forall_mem_nil _)
      · exact hmembers _ _ _ _ hread
  · exact hP.of_readScalar hread

/-- The items are carried along in the order opposite to that of the array. -/
theorem of_readItems_succ
    {fuel depth : Nat} {cursor rest : Cursor} {done : List Json} {value : Json}
    (hP : IsInherited P)
    (hvalue : ∀ depth cursor value rest, readValue fuel depth cursor = .ok (value, rest) → P value)
    (hitems : ∀ depth cursor done value rest, (∀ item ∈ done, P item) →
      readItems fuel depth cursor done = .ok (value, rest) → P value)
    (hdone : ∀ item ∈ done, P item)
    (hread : readItems (fuel + 1) depth cursor done = .ok (value, rest)) :
    P value := by
  unfold readItems at hread
  split at hread
  · cases hread
  · next item after hitem =>
      have hmore := List.forall_mem_cons.mpr ⟨hvalue _ _ _ _ hitem, hdone⟩
      simp only at hread
      split at hread
      · cases hread
        exact hP.array _ fun item hmem => hmore item (List.mem_reverse.mp hmem)
      · exact hitems _ _ _ _ _ hmore hread
      · cases hread

theorem of_readMembers_succ
    {fuel depth : Nat} {cursor rest : Cursor} {done : List (String × Json)} {value : Json}
    (hP : IsInherited P)
    (hvalue : ∀ depth cursor value rest, readValue fuel depth cursor = .ok (value, rest) → P value)
    (hmembers : ∀ depth cursor done value rest, (∀ pair ∈ done, P pair.2) →
      readMembers fuel depth cursor done = .ok (value, rest) → P value)
    (hdone : ∀ pair ∈ done, P pair.2)
    (hread : readMembers (fuel + 1) depth cursor done = .ok (value, rest)) :
    P value := by
  unfold readMembers at hread
  split at hread
  · split at hread
    · cases hread
    · simp only at hread
      split at hread
      · split at hread
        · cases hread
        · next found behind hfound =>
            have hmore : ∀ name, ∀ pair ∈ (name, found) :: done, P pair.2 :=
              fun name => List.forall_mem_cons.mpr ⟨hvalue _ _ _ _ hfound, hdone⟩
            split at hread
            · cases hread
              exact hP.object _ fun pair hmem => hmore _ pair (List.mem_reverse.mp hmem)
            · exact hmembers _ _ _ _ _ (hmore _) hread
            · cases hread
      · cases hread
  · cases hread

/-- The three readers call each other with one unit of fuel less, and those of items and members
carry what they have read before. -/
theorem of_read
    (hP : IsInherited P)
    (fuel : Nat) :
    (∀ depth cursor value rest, readValue fuel depth cursor = .ok (value, rest) → P value) ∧
    (∀ depth cursor done value rest, (∀ item ∈ done, P item) →
      readItems fuel depth cursor done = .ok (value, rest) → P value) ∧
    (∀ depth cursor done value rest, (∀ pair ∈ done, P pair.2) →
      readMembers fuel depth cursor done = .ok (value, rest) → P value) := by
  induction fuel with
  | zero =>
      refine ⟨fun _ _ _ _ hread => ?_, fun _ _ _ _ _ _ hread => ?_, fun _ _ _ _ _ _ hread => ?_⟩
      · cases hread
      · cases hread
      · cases hread
  | succ fuel ih =>
      obtain ⟨hvalue, hitems, hmembers⟩ := ih
      refine ⟨fun _ _ _ _ hread => ?_, fun _ _ _ _ _ hdone hread => ?_,
        fun _ _ _ _ _ hdone hread => ?_⟩
      · exact hP.of_readValue_succ
          (fun _ _ _ _ => hitems _ _ _ _ _ (List.forall_mem_nil _))
          (fun _ _ _ _ => hmembers _ _ _ _ _ (List.forall_mem_nil _)) hread
      · exact hP.of_readItems_succ hvalue hitems hdone hread
      · exact hP.of_readMembers_succ hvalue hmembers hdone hread

/-- Everything that is decoded has the property. -/
theorem of_decode
    {text : String} {data : Json}
    (hP : IsInherited P)
    (hdecode : decode text = .ok data) :
    P data := by
  unfold decode decodeChars at hdecode
  split at hdecode
  · cases hdecode
  · split at hdecode
    · cases hdecode
    · next value cursor hread =>
        simp only at hdecode
        split at hdecode
        · cases hdecode
          exact (hP.of_read _).1 _ _ _ _ hread
        · cases hdecode

end IsInherited

end Json
end RestartCheck
