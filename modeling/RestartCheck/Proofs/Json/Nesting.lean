import RestartCheck.Proofs.Json.Crash

/-!
# Bodies that are nested too deeply

A text that opens more arrays than the limit allows, one inside of the other, is not decoded,
whatever stands behind them.  Such a text need not be JSON at all: reading it breaks off before a
flaw is seen.

**Results.**
* `decode_openArrays`: opening too many arrays breaks the reading off.
* `Response.object_eq_ok_iff`, `Response.fatal_or_tooDeep_of_object`: the bodies that are read as
  objects, and how the others fail.
-/

namespace RestartCheck

namespace Json

/-- A number of opening brackets, and what stands behind them. -/
def openArrays
    (count : Nat)
    (rest : List Char) : List Char :=
  List.replicate count '[' ++ rest

theorem openArrays_succ
    (count : Nat)
    (rest : List Char) :
    openArrays (count + 1) rest = '[' :: openArrays count rest := by
  rw [openArrays, List.replicate_succ, List.cons_append, openArrays]

theorem openArrays_add
    (count more : Nat)
    (rest : List Char) :
    openArrays (count + more) rest = openArrays count (openArrays more rest) := by
  rw [openArrays, List.replicate_add, List.append_assoc, openArrays, openArrays]

/-- The flaw of the first item of an array is the flaw of the array. -/
theorem readValue_of_first_item
    {fuel depth offset : Nat} {more : List Char} {flaw : DecodeError}
    (hitem : readValue fuel depth ⟨'[' :: more, offset + 1⟩ = .error flaw) :
    readValue (fuel + 2) (depth + 1) ⟨'[' :: '[' :: more, offset⟩ = .error flaw := by
  change readItems (fuel + 1) depth ⟨'[' :: more, offset + 1⟩ [] = .error flaw
  rw [readItems, hitem]

/-- One array more than may be opened is too many, with any fuel. -/
theorem readValue_openArrays
    (fuel depth offset : Nat)
    (rest : List Char) :
    readValue fuel depth ⟨openArrays (depth + 1) rest, offset⟩ = .error .tooDeep := by
  -- Behind each bracket stands the next one, so every level but the last reads its first item.
  induction depth generalizing fuel offset with
  | zero =>
      cases fuel with
      | zero => rfl
      | succ fuel => rfl
  | succ depth ih =>
      rw [openArrays_succ, openArrays_succ]
      match fuel with
      | 0 => rfl
      | 1 => rfl
      | fuel + 2 =>
          refine readValue_of_first_item ?_
          rw [← openArrays_succ, ih]

/-- A flaw of the value that a text begins with is the flaw of the text. -/
theorem decodeChars_of_readValue
    {c : Char} {rest : List Char} {flaw : DecodeError}
    (hmark : c ≠ '\ufeff')
    (hspace : isSpace c = false)
    (hvalue : ∀ fuel, readValue fuel nestingLimit ⟨c :: rest, 0⟩ = .error flaw) :
    decodeChars (c :: rest) = .error flaw := by
  unfold decodeChars
  split
  · next hcons =>
      rw [List.cons.injEq] at hcons
      exact absurd hcons.1 hmark
  · rw [skipFrom, hspace, if_neg Bool.false_ne_true, hvalue]

/-- A text that opens too many arrays is nested too deeply. -/
theorem decode_openArrays
    {count : Nat}
    (hcount : nestingLimit < count)
    (rest : List Char) :
    decode (String.ofList (openArrays count rest)) = .error .tooDeep := by
  obtain ⟨more, rfl⟩ := Nat.exists_eq_add_of_le hcount
  have hread := fun fuel => readValue_openArrays fuel nestingLimit 0 (openArrays more rest)
  rw [openArrays_succ] at hread
  rw [Nat.succ_eq_add_one, openArrays_add, openArrays_succ]
  rw [decode, String.toList_ofList]
  exact decodeChars_of_readValue (by decide) (by decide) hread

/-- Nothing but opening brackets. -/
def deepText : String :=
  String.ofList (openArrays 20000 [])

end Json

namespace Response

/-- The bodies that are read as objects: the texts of objects, and the empty text. -/
theorem object_eq_ok_iff
    {response : Response} {members : Json.Members} :
    response.object = .ok members ↔
      response.body = "" ∧ members = [] ∨
        Json.decode response.body = .ok (.object members) := by
  by_cases hempty : response.body = ""
  · have hnone : Json.decode "" ≠ .ok (.object members) := by
      intro hdecoded
      cases hdecoded
    rw [object_of_body_eq_empty hempty, hempty]
    simp [hnone, eq_comm]
  · unfold object
    rw [if_neg hempty]
    split
    · next found hdecoded => simp [hempty, hdecoded]
    all_goals simp_all

/-- The answer reports success, but its body is nested too deeply to be read. -/
def IsTooDeep (response : Response) : Prop :=
  response.ok = true ∧ Json.decode response.body = .error .tooDeep

theorem isTooDeep_deepText : IsTooDeep ⟨200, Json.deepText⟩ :=
  ⟨rfl, Json.decode_openArrays (by decide) []⟩

theorem object_of_tooDeep
    {response : Response}
    (hdeep : Json.decode response.body = .error .tooDeep) :
    response.object = .error (.defect .nestingTooDeep) := by
  have hnonempty : response.body ≠ "" := by
    intro hempty
    rw [hempty] at hdeep
    cases hdeep
  unfold object
  rw [if_neg hnonempty, hdeep]

theorem not_isTooDeep_of_object
    {response : Response} {members : Json.Members}
    (hbody : response.object = .ok members) :
    ¬response.IsTooDeep := by
  intro hdeep
  cases hbody.symm.trans (object_of_tooDeep hdeep.2)

/-- A body that is nested too deeply is the only one that is neither read nor fatal. -/
theorem fatal_or_tooDeep_of_object
    {response : Response} {failure : Failure}
    (hfailed : response.object = .error failure) :
    (∃ message details, failure = .fatal message details) ∨
      Json.decode response.body = .error .tooDeep ∧ failure = .defect .nestingTooDeep := by
  unfold object at hfailed
  split at hfailed
  · cases hfailed
  split at hfailed
  · cases hfailed
  · cases hfailed
    exact Or.inl ⟨_, _, rfl⟩
  · next hdeep =>
      cases hfailed
      exact Or.inr ⟨hdeep, rfl⟩
  · cases hfailed
    exact Or.inl ⟨_, _, rfl⟩

end Response

end RestartCheck
