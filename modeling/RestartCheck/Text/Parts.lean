/-!
# Parts of a text

A text is taken apart at the characters that separate its parts.

**Results.**
* `partsWhere_ne_nil`: there is always at least one part.
* `partsWhere_of_plain`: a text without separators is one part.
-/

namespace RestartCheck.Text

/-- The parts of a text between separators. -/
def partsWhere (separates : Char → Bool) : List Char → List (List Char)
  | [] => [[]]
  | c :: rest =>
    if separates c then [] :: partsWhere separates rest
    else
      match partsWhere separates rest with
      | first :: others => (c :: first) :: others
      | [] => [[c]]

/-- There is always a first part. -/
theorem partsWhere_ne_nil (separates : Char → Bool) (text : List Char) :
    partsWhere separates text ≠ [] := by
  cases text with
  | nil => simp [partsWhere]
  | cons c rest =>
    unfold partsWhere
    split
    · simp
    · split <;> simp

/-- A text that nothing separates is one part. -/
theorem partsWhere_of_plain {separates : Char → Bool} {text : List Char}
    (h : ∀ c ∈ text, separates c = false) : partsWhere separates text = [text] := by
  induction text with
  | nil => rfl
  | cons c rest ih =>
    have hc : separates c = false := h c (by simp)
    have hrest := ih fun d hd => h d (by simp [hd])
    simp [partsWhere, hc, hrest]

end RestartCheck.Text
