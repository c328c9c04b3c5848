/-!
# Lines

A text is made of lines.  A line feed or a carriage return ends one, and both together end one as
well; so do the vertical tab, the form feed, the separators of files, groups and records, the next
line character, and the separators of lines and paragraphs.

**Results.**
* `lineCount_of_plain`: a text without any of these characters is one line.
-/

namespace RestartCheck.Text

/-- The character ends a line. -/
def isLineBreak (c : Char) : Bool :=
  ['\n', '\r', '\x0b', '\x0c', '\x1c', '\x1d', '\x1e', '\x85', '\u2028', '\u2029'].contains c

/-- The lines of a text, counted from a place inside a line or at its start. -/
def linesFrom (inside : Bool) : List Char → Nat
  | [] => if inside then 1 else 0
  | '\r' :: '\n' :: rest => linesFrom false rest + 1
  | c :: rest => if isLineBreak c then linesFrom false rest + 1 else linesFrom true rest

def lineCount (text : List Char) : Nat :=
  linesFrom false text

theorem linesFrom_of_plain {text : List Char} (h : ∀ c ∈ text, isLineBreak c = false)
    (inside : Bool) :
    linesFrom inside text = if inside || !text.isEmpty then 1 else 0 := by
  induction text generalizing inside with
  | nil => cases inside <;> rfl
  | cons c rest ih =>
    have hc : isLineBreak c = false := h c (by simp)
    have hrest := ih fun d hd => h d (by simp [hd])
    unfold linesFrom
    split
    · next heq => cases heq
    · next heq =>
      cases heq
      exact absurd hc (by decide)
    · next heq =>
      cases heq
      simp [hc, hrest]

/-- A text without line breaks is one line. -/
theorem lineCount_of_plain {text : List Char} (h : ∀ c ∈ text, isLineBreak c = false)
    (hne : text ≠ []) : lineCount text = 1 := by
  unfold lineCount
  rw [linesFrom_of_plain h]
  simp [hne]

end RestartCheck.Text
