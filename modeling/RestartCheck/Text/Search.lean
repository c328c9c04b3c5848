/-!
# Searching texts

**Results.**
* `occursIn_iff`: a part occurs in a text exactly when the text is the part with something before
  and after it.
-/

namespace RestartCheck.Text

/-- The first list occurs within the second. -/
def occursIn (part : List Char) : List Char → Bool
  | [] => part.isEmpty
  | c :: rest => part.isPrefixOf (c :: rest) || occursIn part rest

/-- The first text occurs within the second. -/
def contains (text part : String) : Bool :=
  occursIn part.toList text.toList

/-- A text occurs in another when it is a stretch of it. -/
theorem occursIn_iff {part text : List Char} : occursIn part text = true ↔ part <:+: text := by
  induction text with
  | nil => simp [occursIn]
  | cons c rest ih =>
    rw [occursIn, Bool.or_eq_true, List.isPrefixOf_iff_prefix, ih, List.infix_cons_iff]

theorem contains_iff {text part : String} :
    contains text part = true ↔ part.toList <:+: text.toList :=
  occursIn_iff

end RestartCheck.Text
