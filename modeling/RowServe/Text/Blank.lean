import RowServe.Text.CodeRange

/-!
# Blanks

White space in the sense of the Unicode property of that name, and texts with their
outer white space taken off.

Results:

* `isBlank_of_isWhitespace`: every ASCII white space character is a blank.
-/

namespace RowServe.Text

/-- The code points of the property White_Space. -/
def blankRanges : List (Nat × Nat) :=
  [(0x9, 0xD), (0x20, 0x20), (0x85, 0x85), (0xA0, 0xA0), (0x1680, 0x1680), (0x2000, 0x200A),
   (0x2028, 0x2029), (0x202F, 0x202F), (0x205F, 0x205F), (0x3000, 0x3000)]

/-- Is the character white space? -/
def isBlank (c : Char) : Bool := inRanges blankRanges c

/-- The characters without the blanks in front. -/
def trimFrontList (cs : List Char) : List Char := cs.dropWhile isBlank

/-- The characters without the blanks at either end. -/
def trimList (cs : List Char) : List Char :=
  (trimFrontList (trimFrontList cs).reverse).reverse

/-- The text without the blanks at either end. -/
def trim (s : String) : String := String.ofList (trimList s.toList)

theorem isBlank_of_isWhitespace (c : Char) (h : c.isWhitespace = true) : isBlank c = true := by
  simp only [Char.isWhitespace, Bool.or_eq_true, decide_eq_true_eq] at h
  rcases h with ((h | h) | h) | h <;> subst h <;> decide

theorem trimFrontList_of_head {c : Char} {cs : List Char} (h : isBlank c = false) :
    trimFrontList (c :: cs) = c :: cs := by
  simp [trimFrontList, List.dropWhile, h]

end RowServe.Text
