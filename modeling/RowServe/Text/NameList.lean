import RowServe.Text.Blank
import RowServe.Text.Split

/-!
# Lists of names

Names written in one text with commas between them.

Results:

* `names_nonempty`: a listed name is not empty.
-/

namespace RowServe.Text

/-- The names between the commas of a text, trimmed, without empty ones. -/
def names (s : String) : List String :=
  ((splitOn ',' s.toList).map trimList).filterMap fun cs =>
    if cs.isEmpty then none else some (String.ofList cs)

theorem names_nonempty {s n : String} (h : n ∈ names s) : n.toList ≠ [] := by
  obtain ⟨cs, _, hn⟩ := List.mem_filterMap.mp h
  cases cs with
  | nil => simp at hn
  | cons c cs =>
    simp only [List.isEmpty_cons, Bool.false_eq_true, if_false, Option.some.injEq] at hn
    simp [← hn]

end RowServe.Text
