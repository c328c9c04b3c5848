import RestartCheck.Json.Basic
import RestartCheck.Text.LowerCase

/-!
# Redaction

Credentials and e-mail addresses do not belong in logs.  The values under sensitive names are
replaced as a whole, and addresses inside other texts one by one, from left to right.

**Addresses.**  An address has characters of a local part, an at sign, characters of a domain, a dot
and two letters or more.  All parts are as long as possible; where the characters of the domain
could be split in several ways, the last dot that is followed by two letters counts.

**Depth.**  Redaction goes through a value level by level, and gives up on a value that is nested
too deeply.  What stands under a sensitive name is not looked at, so it may be nested as deeply as
it likes.

**Results.**
* `isAddress_of_afterAddress?`: only addresses are replaced.
* `length_afterAddress?`: finding one leaves less to be searched.
-/

namespace RestartCheck.Redaction

/-- Names whose values are hidden, in lower case. -/
def sensitiveNames : List String :=
  ["password", "passwd", "secret", "token", "api_key", "auth", "authorization", "credential",
   "credentials", "email", "private_key", "access_token", "refresh_token"]

/-- The values under the name are hidden, in whatever case it is written. -/
def isSensitive (name : String) : Bool :=
  sensitiveNames.contains (Text.lower name)

def hiddenValue : String := "[REDACTED]"

def hiddenAddress : String := "[EMAIL]"

/-! ## Addresses -/

/-- Characters of the part before the at sign. -/
def isLocal (c : Char) : Bool :=
  c.isAlphanum || ['.', '_', '%', '+', '-'].contains c

def isDomain (c : Char) : Bool :=
  c.isAlphanum || c = '.' || c = '-'

def IsAddress (text : List Char) : Prop :=
  ∃ front domain letters, text = front ++ '@' :: (domain ++ '.' :: letters) ∧
    front ≠ [] ∧ (∀ c ∈ front, isLocal c = true) ∧
    domain ≠ [] ∧ (∀ c ∈ domain, isDomain c = true) ∧
    2 ≤ letters.length ∧ ∀ c ∈ letters, c.isAlpha = true

/-- What follows all letters at the start of a text, if there are at least two. -/
def afterLetters? : List Char → Option (List Char)
  | a :: b :: rest =>
    if a.isAlpha && b.isAlpha then some (rest.dropWhile Char.isAlpha) else none
  | _ => none

/-- What follows an address, from a place inside its domain. -/
def afterDomain? : List Char → Option (List Char)
  | [] => none
  | c :: rest =>
    if isDomain c then
      match afterDomain? rest with
      | some after => some after
      | none => if c = '.' then afterLetters? rest else none
    else none

/-- What follows the address at the start of a text, if there is one. -/
def afterAddress? (text : List Char) : Option (List Char) :=
  match text.takeWhile isLocal, text.dropWhile isLocal with
  | _ :: _, '@' :: c :: rest => if isDomain c then afterDomain? rest else none
  | _, _ => none

/-- At least two letters are passed over. -/
theorem afterLetters?_eq_some {text after : List Char} (h : afterLetters? text = some after) :
    ∃ letters, text = letters ++ after ∧ 2 ≤ letters.length ∧ ∀ c ∈ letters, c.isAlpha = true := by
  match text, h with
  | a :: b :: rest, h =>
    simp only [afterLetters?] at h
    split at h
    · next hab =>
      rw [Bool.and_eq_true] at hab
      cases h
      refine ⟨a :: b :: rest.takeWhile Char.isAlpha, ?_, by simp, ?_⟩
      · simp [List.takeWhile_append_dropWhile]
      · intro c hc
        simp only [List.mem_cons] at hc
        rcases hc with rfl | rfl | hc
        · exact hab.1
        · exact hab.2
        · have := List.all_takeWhile (l := rest) (p := Char.isAlpha)
          exact List.all_eq_true.1 this c hc
    · cases h

/-- A domain ends in a dot and at least two letters. -/
theorem afterDomain?_eq_some {text after : List Char} (h : afterDomain? text = some after) :
    ∃ domain letters, text = domain ++ '.' :: (letters ++ after) ∧
      (∀ c ∈ domain, isDomain c = true) ∧ 2 ≤ letters.length ∧
      ∀ c ∈ letters, c.isAlpha = true := by
  induction text with
  | nil => cases h
  | cons c rest ih =>
    simp only [afterDomain?] at h
    split at h
    · next hc =>
      split at h
      · next found heq =>
        cases h
        obtain ⟨domain, letters, rfl, hdomain, hlen, hletters⟩ := ih heq
        refine ⟨c :: domain, letters, rfl, ?_, hlen, hletters⟩
        intro d hd
        rcases List.mem_cons.1 hd with rfl | hd
        · exact hc
        · exact hdomain d hd
      · split at h
        · next hdot =>
          obtain ⟨letters, rfl, hlen, hletters⟩ := afterLetters?_eq_some h
          exact ⟨[], letters, by rw [hdot]; rfl, by simp, hlen, hletters⟩
        · cases h
    · cases h

/-- What is replaced is an address. -/
theorem isAddress_of_afterAddress? {text after : List Char} (h : afterAddress? text = some after) :
    ∃ address, text = address ++ after ∧ IsAddress address := by
  unfold afterAddress? at h
  split at h
  · next d front c rest hfront hrest =>
    split at h
    · next hc =>
      obtain ⟨domain, letters, rfl, hdomain, hlen, hletters⟩ := afterDomain?_eq_some h
      refine ⟨(d :: front) ++ '@' :: ((c :: domain) ++ '.' :: letters), ?_, ?_⟩
      · have hsplit := List.takeWhile_append_dropWhile (p := isLocal) (l := text)
        rw [hfront, hrest] at hsplit
        rw [← hsplit]
        simp
      · refine ⟨d :: front, c :: domain, letters, rfl, by simp, ?_, by simp, ?_, hlen, hletters⟩
        · intro x hx
          have hall := List.all_takeWhile (l := text) (p := isLocal)
          rw [hfront] at hall
          exact List.all_eq_true.1 hall x hx
        · intro x hx
          rcases List.mem_cons.1 hx with rfl | hx
          · exact hc
          · exact hdomain x hx
    · cases h
  · cases h

/-- Replacing an address makes the rest shorter. -/
theorem length_afterAddress? {text after : List Char} (h : afterAddress? text = some after) :
    after.length < text.length := by
  obtain ⟨address, rfl, front, domain, letters, rfl, -⟩ := isAddress_of_afterAddress? h
  simp only [List.length_append, List.length_cons]
  omega

theorem length_dropWhile_cons {p : Char → Bool} {c : Char} (h : p c = true) (rest : List Char) :
    ((c :: rest).dropWhile p).length < (c :: rest).length := by
  rw [List.dropWhile_cons_of_pos h]
  exact Nat.lt_succ_of_le (List.dropWhile_sublist p).length_le

/-- Replace all addresses.  A run of characters that could start an address but does not is passed
over as a whole, since no address starts inside it either. -/
def hideIn : List Char → List Char
  | [] => []
  | c :: rest =>
    if isLocal c then
      match _hafter : afterAddress? (c :: rest) with
      | some after => hiddenAddress.toList ++ hideIn after
      | none => (c :: rest).takeWhile isLocal ++ hideIn ((c :: rest).dropWhile isLocal)
    else c :: hideIn rest
termination_by text => text.length
decreasing_by
  · exact length_afterAddress? _hafter
  · exact length_dropWhile_cons (by assumption) rest
  · simp

def hideAddresses (text : String) : String :=
  String.ofList (hideIn text.toList)

/-! ## Values -/

mutual

def redact : Json → Json
  | .string text => .string (hideAddresses text)
  | .array items => .array (redactItems items)
  | .object members => .object (redactMembers members)
  | value => value

def redactItems : List Json → List Json
  | [] => []
  | item :: rest => redact item :: redactItems rest

/-- Redact every member.  Names are kept as they are. -/
def redactMembers : List (String × Json) → List (String × Json)
  | [] => []
  | (name, value) :: rest =>
    (name, if isSensitive name then .string hiddenValue else redact value)
      :: redactMembers rest

end

/-- How many levels of nesting redaction goes through.  Like the limit on reading, it depends on the
calls that are open already; every level takes two calls here. -/
def levelLimit : Nat := 480

mutual

/-- The levels of nesting suffice to redact the value. -/
def fits : Nat → Json → Bool
  | 0, .array _ => false
  | 0, .object _ => false
  | levels + 1, .array items => fitsItems levels items
  | levels + 1, .object members => fitsMembers levels members
  | _, _ => true

def fitsItems (levels : Nat) : List Json → Bool
  | [] => true
  | item :: rest => fits levels item && fitsItems levels rest

def fitsMembers (levels : Nat) : List (String × Json) → Bool
  | [] => true
  | (name, value) :: rest =>
    (isSensitive name || fits levels value) && fitsMembers levels rest

end

@[simp] theorem fits_string (levels : Nat) (text : String) : fits levels (.string text) = true := by
  cases levels <;> rfl

@[simp] theorem fits_int (levels : Nat) (value : Int) : fits levels (.int value) = true := by
  cases levels <;> rfl

end RestartCheck.Redaction
