/-!
# Texts in order

Texts are ordered by their code points.  Sorting is by insertion.

**Results.**
* `length_sorted`, `mem_sorted`: sorting keeps the texts.
-/

namespace RestartCheck.Text

/-- Insert a text before the first greater one. -/
def insertSorted (text : String) : List String → List String
  | [] => [text]
  | first :: rest => if text < first then text :: first :: rest else first :: insertSorted text rest

def sorted : List String → List String
  | [] => []
  | text :: rest => insertSorted text (sorted rest)

@[simp] theorem length_insertSorted (text : String) (texts : List String) :
    (insertSorted text texts).length = texts.length + 1 := by
  induction texts with
  | nil => rfl
  | cons first rest ih => by_cases h : text < first <;> simp [insertSorted, h, ih]

/-- Inserting adds one text. -/
@[simp] theorem mem_insertSorted {text other : String} {texts : List String} :
    other ∈ insertSorted text texts ↔ other = text ∨ other ∈ texts := by
  induction texts with
  | nil => simp [insertSorted]
  | cons first rest ih =>
    by_cases h : text < first
    · simp [insertSorted, h]
    · simp only [insertSorted, h, if_false, List.mem_cons, ih]
      constructor
      · rintro (h | h | h) <;> simp [h]
      · rintro (h | h | h) <;> simp [h]

@[simp] theorem length_sorted (texts : List String) : (sorted texts).length = texts.length := by
  induction texts with
  | nil => rfl
  | cons text rest ih => simp [sorted, ih]

/-- Sorting keeps the texts. -/
@[simp] theorem mem_sorted {text : String} {texts : List String} :
    text ∈ sorted texts ↔ text ∈ texts := by
  induction texts with
  | nil => simp [sorted]
  | cons first rest ih => simp [sorted, ih]

end RestartCheck.Text
