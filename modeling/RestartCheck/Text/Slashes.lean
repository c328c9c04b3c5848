/-!
# Slashes

Paths and addresses are made of segments between slashes.

**Results.**
* `intercalate_splitSlashes`: joining the segments again gives the text.
* `trimSlashes_eq_self`: a text without a slash at its end is kept as it is.
-/

namespace RestartCheck.Text

/-- The segments of a text between slashes; there is always at least one. -/
def splitSlashes : List Char → List (List Char)
  | [] => [[]]
  | c :: rest =>
    if c = '/' then [] :: splitSlashes rest
    else
      match splitSlashes rest with
      | first :: others => (c :: first) :: others
      | [] => [[c]]

/-- The text without the slashes at its end. -/
def trimSlashes (text : String) : String :=
  String.ofList (text.toList.reverse.dropWhile (· == '/')).reverse

theorem splitSlashes_ne_nil (text : List Char) : splitSlashes text ≠ [] := by
  cases text with
  | nil => simp [splitSlashes]
  | cons c rest =>
    unfold splitSlashes
    split
    · simp
    · split <;> simp

/-- The segments with slashes between them are the text again. -/
theorem intercalate_splitSlashes (text : List Char) :
    ['/'].intercalate (splitSlashes text) = text := by
  fun_induction splitSlashes text with
  | case1 => rfl
  | case2 rest ih =>
    cases h : splitSlashes rest with
    | nil => exact absurd h (splitSlashes_ne_nil rest)
    | cons first others =>
      rw [h] at ih
      rw [← ih]
      simp [List.intercalate]
  | case3 c rest hc first others heq ih =>
    rw [heq] at ih
    rw [← ih]
    cases others with
    | nil => simp [List.intercalate]
    | cons second more => simp [List.intercalate]
  | case4 c rest hc heq ih => exact absurd heq (splitSlashes_ne_nil rest)

/-- A text that does not end in a slash stays as it is. -/
theorem trimSlashes_eq_self {text : String} {c : Char} (h : text.toList.getLast? = some c)
    (hc : c ≠ '/') : trimSlashes text = text := by
  obtain ⟨front, hfront⟩ := List.getLast?_eq_some_iff.1 h
  have hdrop : (text.toList.reverse.dropWhile (· == '/')).reverse = text.toList := by
    simp [hfront, hc]
  rw [trimSlashes, hdrop, String.ofList_toList]

end RestartCheck.Text
