/-!
# Ranges of code points

Classes of characters and maps between characters, given by tables of code point ranges
as the Unicode standard publishes them.
-/

namespace RowServe.Text

/-- Is the character in one of the ranges? Both ends belong to a range. -/
def inRanges (ranges : List (Nat × Nat)) (c : Char) : Bool :=
  ranges.any fun (first, last) => first ≤ c.toNat && c.toNat ≤ last

/-- A run of code points, each `step` above the last, that a map moves by one distance. -/
structure ShiftRun where
  first : Nat
  last : Nat
  step : Nat
  shift : Int

/-- Is the code point one of the run? -/
def ShiftRun.holds (r : ShiftRun) (n : Nat) : Bool :=
  r.first ≤ n && n ≤ r.last && (n - r.first) % r.step == 0

/-- The character moved by the first run that holds it; in no run it stays. -/
def shiftBy (runs : List ShiftRun) (c : Char) : Char :=
  match runs.find? (·.holds c.toNat) with
  | some r => Char.ofNat ((c.toNat : Int) + r.shift).toNat
  | none => c

end RowServe.Text
