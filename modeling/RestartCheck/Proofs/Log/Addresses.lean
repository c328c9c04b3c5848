import RestartCheck.Log.Redaction

/-!
# No address is left in a redacted event

Addresses are replaced from left to right.  An address is looked for at every place that could begin
one, and is found there when there is one; of those that begin at one place the longest is found.
What is put in its place begins and ends with a bracket, and brackets do not stand in addresses.  So
no address forms around it, and a second pass finds nothing.

**Results.**
* `afterAddress?_ne_none`, `length_le_of_afterAddress?`: the search misses no address and finds the
  longest one.
* `substituted_hideIn`: the first address is replaced, and then the text behind it is searched.
* `Substituted.not_hasAddress`, `Substituted.eq_self`: no address is left, and a text without one
  stays as it is.
* `leaves_no_address`: redaction of a whole event.
-/

namespace RestartCheck
namespace Redaction

/-- There is an address somewhere in the text. -/
def HasAddress (text : List Char) : Prop :=
  ∃ front address back, text = front ++ (address ++ back) ∧ IsAddress address

section Search

variable {text front back address : List Char} {c : Char}

theorem isLocal_of_isDomain
    (hdomain : isDomain c = true) :
    isLocal c = true := by
  simp only [isDomain, Bool.or_eq_true, decide_eq_true_eq] at hdomain
  rcases hdomain with (halphanum | rfl) | rfl
  · simp [isLocal, halphanum]
  · rfl
  · rfl

theorem isDomain_of_isAlpha
    (halpha : c.isAlpha = true) :
    isDomain c = true := by
  simp [isDomain, Char.isAlphanum, halpha]

/-- All characters of an address are local, but for the at sign. -/
theorem IsAddress.isLocal_or_eq
    (haddress : IsAddress address)
    (hmem : c ∈ address) :
    isLocal c = true ∨ c = '@' := by
  obtain ⟨part, domain, letters, rfl, _, hpart, _, hdomain, _, hletters⟩ := haddress
  simp only [List.mem_append, List.mem_cons] at hmem
  rcases hmem with hmem | rfl | hmem | rfl | hmem
  · exact Or.inl (hpart c hmem)
  · exact Or.inr rfl
  · exact Or.inl (isLocal_of_isDomain (hdomain c hmem))
  · exact Or.inl rfl
  · exact Or.inl (isLocal_of_isDomain (isDomain_of_isAlpha (hletters c hmem)))

/-- Characters of the local part in front of an address make it longer. -/
theorem IsAddress.append_left
    (haddress : IsAddress address)
    (hfront : ∀ c ∈ front, isLocal c = true) :
    IsAddress (front ++ address) := by
  obtain ⟨part, domain, letters, rfl, hne, hpart, hrest⟩ := haddress
  refine ⟨front ++ part, domain, letters, (List.append_assoc _ _ _).symm, ?_, ?_, hrest⟩
  · exact List.append_ne_nil_of_right_ne_nil front hne
  · intro c hmem
    rcases List.mem_append.mp hmem with hmem | hmem
    · exact hfront c hmem
    · exact hpart c hmem

/-! ## Addresses are found -/

theorem afterLetters?_ne_none
    {letters : List Char}
    (hlength : 2 ≤ letters.length)
    (hletters : ∀ c ∈ letters, c.isAlpha = true)
    (back : List Char) :
    afterLetters? (letters ++ back) ≠ none := by
  match letters, hlength with
  | first :: second :: rest, _ =>
      simp [afterLetters?, hletters]

theorem afterDomain?_ne_none
    {domain letters : List Char}
    (hdomain : ∀ c ∈ domain, isDomain c = true)
    (hlength : 2 ≤ letters.length)
    (hletters : ∀ c ∈ letters, c.isAlpha = true)
    (back : List Char) :
    afterDomain? (domain ++ '.' :: (letters ++ back)) ≠ none := by
  induction domain with
  | nil =>
      have hafter := afterLetters?_ne_none hlength hletters back
      rw [List.nil_append, afterDomain?, if_pos (by decide)]
      split
      · exact Option.some_ne_none _
      · exact hafter
  | cons c rest ih =>
      rw [List.forall_mem_cons] at hdomain
      have hafter := ih hdomain.2
      rw [List.cons_append, afterDomain?, if_pos hdomain.1]
      split
      · exact Option.some_ne_none _
      · next hnone => exact absurd hnone hafter

/-- An address is looked for behind the at sign that ends the local characters. -/
theorem afterAddress?_local_append
    {part : List Char}
    (hne : part ≠ [])
    (hpart : ∀ c ∈ part, isLocal c = true)
    (hdomain : isDomain c = true)
    (rest : List Char) :
    afterAddress? (part ++ '@' :: c :: rest) = afterDomain? rest := by
  have htake : (part ++ '@' :: c :: rest).takeWhile isLocal = part := by
    rw [List.takeWhile_append_of_pos hpart, List.takeWhile_cons_of_neg (by decide),
      List.append_nil]
  have hdrop : (part ++ '@' :: c :: rest).dropWhile isLocal = '@' :: c :: rest := by
    rw [List.dropWhile_append_of_pos hpart, List.dropWhile_cons_of_neg (by decide)]
  obtain ⟨first, others, rfl⟩ := List.exists_cons_of_ne_nil hne
  rw [afterAddress?, htake, hdrop]
  simp only [hdomain, if_true]

/-- The search behind the first two characters of an address and its local part. -/
theorem IsAddress.exists_afterDomain?
    (haddress : IsAddress address) :
    ∃ domain letters,
      (∀ c ∈ domain, isDomain c = true) ∧
      2 ≤ letters.length ∧
      (∀ c ∈ letters, c.isAlpha = true) ∧
      ∀ back, afterAddress? (address ++ back) =
        afterDomain? (domain ++ '.' :: (letters ++ back)) := by
  obtain ⟨part, domain, letters, rfl, hne, hpart, hsome, hdomain, hlength, hletters⟩ := haddress
  obtain ⟨c, rest, rfl⟩ := List.exists_cons_of_ne_nil hsome
  rw [List.forall_mem_cons] at hdomain
  refine ⟨rest, letters, hdomain.2, hlength, hletters, fun back => ?_⟩
  rw [← afterAddress?_local_append hne hpart hdomain.1]
  simp

/-- The address at the start of a text is found. -/
theorem afterAddress?_ne_none
    (haddress : IsAddress address)
    (back : List Char) :
    afterAddress? (address ++ back) ≠ none := by
  obtain ⟨domain, letters, hdomain, hlength, hletters, hafter⟩ := haddress.exists_afterDomain?
  rw [hafter]
  exact afterDomain?_ne_none hdomain hlength hletters back

theorem eq_dropWhile_of_afterLetters?
    {after : List Char}
    (hafter : afterLetters? text = some after) :
    after = text.dropWhile Char.isAlpha := by
  match text, hafter with
  | first :: second :: rest, hafter =>
      rw [afterLetters?] at hafter
      split at hafter
      · next hboth =>
          rw [Bool.and_eq_true] at hboth
          cases hafter
          rw [List.dropWhile_cons_of_pos hboth.1, List.dropWhile_cons_of_pos hboth.2]
      · cases hafter

theorem length_le_of_afterLetters?
    {letters after : List Char}
    (hletters : ∀ c ∈ letters, c.isAlpha = true)
    (hafter : afterLetters? (letters ++ back) = some after) :
    after.length ≤ back.length := by
  rw [eq_dropWhile_of_afterLetters? hafter, List.dropWhile_append_of_pos hletters]
  exact (List.dropWhile_sublist _).length_le

/-- What follows the domain that is found is no longer than what follows any other. -/
theorem length_le_of_afterDomain?
    {domain letters after : List Char}
    (hdomain : ∀ c ∈ domain, isDomain c = true)
    (hlength : 2 ≤ letters.length)
    (hletters : ∀ c ∈ letters, c.isAlpha = true)
    (hafter : afterDomain? (domain ++ '.' :: (letters ++ back)) = some after) :
    after.length ≤ back.length := by
  induction domain with
  | nil =>
      rw [List.nil_append, afterDomain?, if_pos (by decide)] at hafter
      split at hafter
      · next found hfound =>
          cases hafter
          obtain ⟨others, last, hsplit, _⟩ := afterDomain?_eq_some hfound
          -- The dot that is found stands behind the letters, for there is none among them.
          rcases List.append_eq_append_iff.mp hsplit with ⟨more, rfl, hback⟩ | ⟨more, hmore, hdot⟩
          · rw [hback]
            simp only [List.length_append, List.length_cons]
            omega
          · cases more with
            | nil =>
                rw [List.nil_append] at hdot
                rw [← hdot]
                simp only [List.length_append, List.length_cons]
                omega
            | cons dot more =>
                obtain ⟨rfl, _⟩ := List.cons.inj hdot
                have halpha := hletters '.' (by rw [hmore]; simp)
                exact absurd halpha (by decide)
      · exact length_le_of_afterLetters? hletters (by simpa using hafter)
  | cons c rest ih =>
      rw [List.forall_mem_cons] at hdomain
      rw [List.cons_append, afterDomain?, if_pos hdomain.1] at hafter
      split at hafter
      · next found hfound =>
          cases hafter
          exact ih hdomain.2 hfound
      · next hnone => exact absurd hnone (afterDomain?_ne_none hdomain.2 hlength hletters back)

/-- The address that is found is as long as any other at its place. -/
theorem length_le_of_afterAddress?
    {after : List Char}
    (haddress : IsAddress address)
    (hafter : afterAddress? (address ++ back) = some after) :
    after.length ≤ back.length := by
  obtain ⟨domain, letters, hdomain, hlength, hletters, hsame⟩ := haddress.exists_afterDomain?
  rw [hsame] at hafter
  exact length_le_of_afterDomain? hdomain hlength hletters hafter

/-! ## What a search replaces -/

/-- The text behind `front` starts with the address, no address begins earlier, and none that begins
there is longer. -/
structure IsFirst
    (front address back : List Char) : Prop where
  isAddress : IsAddress address
  leftmost : ∀ pre other post,
    front ++ (address ++ back) = pre ++ (other ++ post) → IsAddress other →
    front.length ≤ pre.length
  longest : ∀ other post,
    address ++ back = other ++ post → IsAddress other → other.length ≤ address.length

/-- Addresses are replaced one after the other, the first and longest of those that are left. -/
inductive Substituted : List Char → List Char → Prop
  | none
      {text : List Char}
      (hnone : ¬HasAddress text) :
      Substituted text text
  | next
      {front address back result : List Char}
      (hfirst : IsFirst front address back)
      (hrest : Substituted back result) :
      Substituted (front ++ (address ++ back)) (front ++ (hiddenAddress.toList ++ result))

theorem IsAddress.exists_cons
    (haddress : IsAddress address) :
    ∃ first others, address = first :: others ∧ isLocal first = true := by
  obtain ⟨part, domain, letters, rfl, hne, hpart, _⟩ := haddress
  obtain ⟨first, others, rfl⟩ := List.exists_cons_of_ne_nil hne
  exact ⟨first, _, rfl, hpart first List.mem_cons_self⟩

/-- No address begins in the part of a text in front of the place from which it is searched. -/
theorem Substituted.append_left
    {result : List Char}
    (passed : List Char)
    (hrest : Substituted text result)
    (hnone : ∀ pre address post,
      passed ++ text = pre ++ (address ++ post) → IsAddress address →
      passed.length ≤ pre.length) :
    Substituted (passed ++ text) (passed ++ result) := by
  have hbehind : ∀ pre address post,
      passed ++ text = pre ++ (address ++ post) → IsAddress address →
      ∃ more, pre = passed ++ more ∧ text = more ++ (address ++ post) := by
    intro pre address post hsplit haddress
    obtain ⟨more, rfl⟩ := List.prefix_of_prefix_length_le (List.prefix_append passed text)
      (hsplit ▸ List.prefix_append pre _) (hnone pre address post hsplit haddress)
    rw [List.append_assoc, List.append_cancel_left_eq] at hsplit
    exact ⟨more, rfl, hsplit⟩
  cases hrest with
  | none hclean =>
      refine .none ?_
      rintro ⟨pre, address, post, hsplit, haddress⟩
      obtain ⟨more, _, htext⟩ := hbehind pre address post hsplit haddress
      exact hclean ⟨more, address, post, htext, haddress⟩
  | next hfirst hrest =>
      rw [← List.append_assoc, ← List.append_assoc passed]
      refine .next ⟨hfirst.isAddress, fun pre other post hsplit hother => ?_, hfirst.longest⟩ hrest
      rw [List.append_assoc] at hsplit
      obtain ⟨more, rfl, htext⟩ := hbehind pre other post hsplit hother
      rw [List.length_append, List.length_append]
      exact Nat.add_le_add_left (hfirst.leftmost more other post htext hother) _

/-- No address begins inside of a run of local characters that does not begin one. -/
theorem length_le_of_afterAddress?_eq_none
    {pre passed : List Char}
    (hpassed : ∀ c ∈ passed, isLocal c = true)
    (hnone : afterAddress? (passed ++ text) = none)
    (hsplit : passed ++ text = pre ++ (address ++ back))
    (haddress : IsAddress address) :
    passed.length ≤ pre.length := by
  refine Nat.le_of_not_lt fun hshort => ?_
  obtain ⟨more, rfl⟩ := List.prefix_of_prefix_length_le (hsplit ▸ List.prefix_append pre _)
    (List.prefix_append passed text) (Nat.le_of_lt hshort)
  have hlonger : IsAddress (pre ++ address) :=
    haddress.append_left fun c hmem => hpassed c (List.mem_append_left more hmem)
  rw [hsplit, ← List.append_assoc] at hnone
  exact afterAddress?_ne_none hlonger back hnone

/-- What is put in the place of the addresses of a text. -/
theorem substituted_hideIn
    (text : List Char) :
    Substituted text (hideIn text) := by
  induction text using hideIn.induct with
  | case1 =>
      rw [hideIn]
      refine .none ?_
      rintro ⟨front, address, back, hsplit, haddress⟩
      obtain ⟨first, others, rfl, _⟩ := haddress.exists_cons
      simp at hsplit
  | case2 c rest hlocal after hafter ih =>
      obtain ⟨address, hsplit, haddress⟩ := isAddress_of_afterAddress? hafter
      have hhidden : hideIn (c :: rest) = hiddenAddress.toList ++ hideIn after := by
        rw [hideIn, if_pos hlocal]
        split
        · next found hfound =>
            cases hafter.symm.trans hfound
            rfl
        · next hnone => cases hafter.symm.trans hnone
      have hfirst : IsFirst [] address after := by
        refine ⟨haddress, fun _ _ _ _ _ => Nat.zero_le _, fun other post hother hlonger => ?_⟩
        rw [hsplit, hother] at hafter
        have hlength := length_le_of_afterAddress? hlonger hafter
        have hsum := congrArg List.length hother
        rw [List.length_append, List.length_append] at hsum
        omega
      rw [hhidden, hsplit]
      exact .next hfirst ih
  | case3 c rest hlocal hnone ih =>
      have hpassed : hideIn (c :: rest) =
          (c :: rest).takeWhile isLocal ++ hideIn ((c :: rest).dropWhile isLocal) := by
        rw [hideIn, if_pos hlocal]
        split
        · next found hfound => cases hnone.symm.trans hfound
        · rfl
      have hrun : (c :: rest).takeWhile isLocal ++ (c :: rest).dropWhile isLocal = c :: rest :=
        List.takeWhile_append_dropWhile
      have happend := ih.append_left ((c :: rest).takeWhile isLocal)
        fun pre address post hother haddress => length_le_of_afterAddress?_eq_none
          (List.all_eq_true.mp List.all_takeWhile) (hrun.symm ▸ hnone) hother haddress
      rwa [hrun, ← hpassed] at happend
  | case4 c rest hlocal ih =>
      rw [hideIn, if_neg hlocal]
      refine ih.append_left [c] fun pre address post hsplit haddress => ?_
      cases pre with
      | nil =>
          -- The first character of an address is local.
          obtain ⟨first, others, rfl, hfirst⟩ := haddress.exists_cons
          obtain ⟨rfl, _⟩ := List.cons.inj hsplit
          exact absurd hfirst hlocal
      | cons other more => simp

/-- The text behind an address is searched anew, so the second at sign has nothing in front of it.
-/
example : hideIn "a@b.c.de@f.gh".toList = "[EMAIL]@f.gh".toList := by
  decide +kernel

/-! ## What is left -/

/-- An address does not reach across a character that cannot stand in one. -/
theorem hasAddress_append_cons
    (hlocal : isLocal c = false)
    (hat : c ≠ '@')
    (haddress : HasAddress (front ++ c :: back)) :
    HasAddress front ∨ HasAddress back := by
  obtain ⟨pre, address, post, hsplit, haddress⟩ := haddress
  have hforeign : c ∉ address := by
    intro hmem
    rcases haddress.isLocal_or_eq hmem with hknown | rfl
    · exact absurd (hlocal.symm.trans hknown) (by decide)
    · exact hat rfl
  rcases List.append_eq_append_iff.mp hsplit with ⟨more, rfl, hback⟩ | ⟨more, rfl, haround⟩
  · -- The address begins behind the front.
    cases more with
    | nil =>
        obtain ⟨first, others, rfl, _⟩ := haddress.exists_cons
        obtain ⟨rfl, _⟩ := List.cons.inj hback
        exact absurd List.mem_cons_self hforeign
    | cons other more =>
        obtain ⟨_, rfl⟩ := List.cons.inj hback
        exact Or.inr ⟨more, address, post, rfl, haddress⟩
  · rcases List.append_eq_append_iff.mp haround with ⟨rest, rfl, hpost⟩ | ⟨rest, rfl, hback⟩
    · exact Or.inl ⟨pre, address, rest, rfl, haddress⟩
    · cases rest with
      | nil => exact Or.inl ⟨pre, _, [], by simp, haddress⟩
      | cons other rest =>
          obtain ⟨rfl, _⟩ := List.cons.inj hback
          exact absurd (by simp) hforeign

theorem not_hasAddress_of_at_notMem
    (hnone : '@' ∉ text) :
    ¬HasAddress text := by
  rintro ⟨pre, address, post, rfl, part, domain, letters, rfl, _⟩
  exact hnone (by simp)

/-- Nothing that is put in the place of an address becomes part of another one. -/
theorem Substituted.not_hasAddress
    {result : List Char}
    (hsubstituted : Substituted text result) :
    ¬HasAddress result := by
  induction hsubstituted with
  | none hnone => exact hnone
  | @next front address back result hfirst _ ih =>
      intro hresult
      have hmark : front ++ (hiddenAddress.toList ++ result) =
          front ++ '[' :: ("EMAIL".toList ++ ']' :: result) := rfl
      rw [hmark] at hresult
      rcases hasAddress_append_cons (by decide) (by decide) hresult with hfront | hbehind
      · obtain ⟨pre, other, post, rfl, hother⟩ := hfront
        have hlength := hfirst.leftmost pre other (post ++ (address ++ back)) (by simp) hother
        obtain ⟨first, others, rfl, _⟩ := hother.exists_cons
        simp only [List.length_append, List.length_cons] at hlength
        omega
      · rcases hasAddress_append_cons (by decide) (by decide) hbehind with hword | hrest
        · exact not_hasAddress_of_at_notMem (by decide) hword
        · exact ih hrest

theorem Substituted.eq_self
    {result : List Char}
    (hsubstituted : Substituted text result)
    (hnone : ¬HasAddress text) :
    result = text := by
  cases hsubstituted with
  | none _ => rfl
  | next hfirst _ => exact absurd ⟨_, _, _, rfl, hfirst.isAddress⟩ hnone

theorem substituted_hideAddresses
    (text : String) :
    Substituted text.toList (hideAddresses text).toList := by
  rw [hideAddresses, String.toList_ofList]
  exact substituted_hideIn text.toList

theorem hideAddresses_eq_self
    {text : String}
    (hnone : ¬HasAddress text.toList) :
    hideAddresses text = text :=
  String.toList_injective ((substituted_hideAddresses text).eq_self hnone)

end Search

/-! ## Events -/

/-- The text is a value, or stands somewhere inside of it as a value. -/
inductive HasText
    (text : String) : Json → Prop
  | here : HasText text (.string text)
  | item
      {items : List Json} {item : Json}
      (hmem : item ∈ items)
      (hitem : HasText text item) :
      HasText text (.array items)
  | member
      {members : Json.Members} {member : String × Json}
      (hmem : member ∈ members)
      (hmember : HasText text member.2) :
      HasText text (.object members)

theorem redactItems_eq_map
    (items : List Json) :
    redactItems items = items.map redact := by
  induction items with
  | nil => rfl
  | cons item rest ih => rw [redactItems, ih, List.map_cons]

/-- The value of a member after the redaction. -/
def redactMember (member : String × Json) : String × Json :=
  (member.1, if isSensitive member.1 then .string hiddenValue else redact member.2)

theorem redactMembers_eq_map
    (members : Json.Members) :
    redactMembers members = members.map redactMember := by
  induction members with
  | nil => rfl
  | cons member rest ih =>
      obtain ⟨name, value⟩ := member
      rw [redactMembers, ih, List.map_cons, redactMember]

/-- No text in a redacted value holds an address. -/
theorem not_hasAddress_of_hasText
    {text : String} {value : Json}
    (htext : HasText text (redact value)) :
    ¬HasAddress text.toList := by
  generalize hredacted : redact value = redacted at htext
  induction htext generalizing value with
  | here =>
      cases value with
      | string known =>
          cases hredacted
          exact (substituted_hideAddresses known).not_hasAddress
      | _ => cases hredacted
  | item hmem _ ih =>
      cases value with
      | array items =>
          cases hredacted
          rw [redactItems_eq_map] at hmem
          obtain ⟨item, _, rfl⟩ := List.mem_map.mp hmem
          exact ih rfl
      | _ => cases hredacted
  | member hmem hmember ih =>
      cases value with
      | object members =>
          cases hredacted
          rw [redactMembers_eq_map] at hmem
          obtain ⟨member, _, rfl⟩ := List.mem_map.mp hmem
          rw [redactMember] at hmember ih
          split at hmember
          · cases hmember
            exact not_hasAddress_of_at_notMem (by decide)
          · next hopen =>
              rw [if_neg hopen] at ih
              exact ih rfl
      | _ => cases hredacted

mutual

theorem redact_redact : ∀ value, redact (redact value) = redact value
  | .null => rfl
  | .bool _ => rfl
  | .int _ => rfl
  | .float _ => rfl
  | .string text => by
      have hclean := (substituted_hideAddresses text).not_hasAddress
      rw [redact, redact, hideAddresses_eq_self hclean]
  | .array items => by rw [redact, redact, redactItems_redactItems items]
  | .object members => by rw [redact, redact, redactMembers_redactMembers members]

theorem redactItems_redactItems : ∀ items, redactItems (redactItems items) = redactItems items
  | [] => rfl
  | item :: rest => by
      rw [redactItems, redactItems, redact_redact item, redactItems_redactItems rest]

theorem redactMembers_redactMembers :
    ∀ members, redactMembers (redactMembers members) = redactMembers members
  | [] => rfl
  | (name, value) :: rest => by
      rw [redactMembers, redactMembers, redactMembers_redactMembers rest]
      split
      · rfl
      · rw [redact_redact value]

end

/-- **No address is left.**  No text that is a value somewhere in a redacted event holds an address,
and redacting the event again changes nothing. -/
theorem leaves_no_address
    (event : Json.Members) :
    (∀ text, HasText text (.object (redactMembers event)) →
      ∀ front address back, text.toList = front ++ (address ++ back) → ¬IsAddress address) ∧
    redactMembers (redactMembers event) = redactMembers event := by
  refine ⟨fun text htext front address back hsplit haddress => ?_,
    redactMembers_redactMembers event⟩
  have hredacted : HasText text (redact (.object event)) := htext
  exact not_hasAddress_of_hasText hredacted ⟨front, address, back, hsplit, haddress⟩

end Redaction
end RestartCheck
