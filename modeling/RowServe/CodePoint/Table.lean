import RowServe.CodePoint.Set

/-!
# Tables of code points

Two notations for data about all code points. A list of ranges names each range by its
ends, `41-5A`, or by its only code point, in hexadecimal. A run table goes through the
code points in order and labels them: `26Lu` says that the next 26 code points carry the
label `Lu`, and a label without a count stands for one.

Results:

* `contains_ofText`: a listed set holds what lies in one of its ranges.
-/

namespace RowServe.CodePoint

/-- The parts of a text between spaces and line ends. -/
def items (s : String) : List (List Char) :=
  let (item, rest) := s.toList.foldr (fun c (item, rest) =>
    if c = ' ' || c = '\n' then ([], if item.isEmpty then rest else item :: rest)
    else (c :: item, rest)) ([], [])
  if item.isEmpty then rest else item :: rest

/-- The value of a hexadecimal digit with a capital letter. -/
def digitValue (c : Char) : Nat :=
  if c.isDigit then c.toNat - 48 else c.toNat - 55

/-- The value of hexadecimal digits. -/
def hexValue (digits : List Char) : Nat := digits.foldl (fun n c => 16 * n + digitValue c) 0

/-- The range of an item such as `41-5A` or `AA`. -/
def readRange (item : List Char) : Nat × Nat :=
  let first := hexValue (item.takeWhile (· ≠ '-'))
  match item.dropWhile (· ≠ '-') with
  | _ :: last => (first, hexValue last)
  | [] => (first, first)

/-- The set of the ranges that a text lists. -/
def ofText (s : String) : CodeSet := .ofRanges ((items s).map readRange)

theorem contains_ofText (s : String) (c : Nat) :
    (ofText s).contains c = (items s).any fun item =>
      decide ((readRange item).1 ≤ c) && decide (c ≤ (readRange item).2) := by
  simp [ofText, CodeSet.contains_ofRanges, List.any_map, Function.comp_def]

/-- Code points that follow each other and carry one label. -/
structure Run where
  first : Nat
  count : Nat
  label : String

/-- The count and the label of an item such as `26Lu` or `Lu`. -/
def readRun (first : Nat) (item : List Char) : Run :=
  let digits := item.takeWhile Char.isDigit
  let count := if digits.isEmpty then 1 else digits.foldl (fun n c => 10 * n + (c.toNat - 48)) 0
  ⟨first, count, String.ofList (item.drop digits.length)⟩

/-- The runs of items, the first of which starts at the given code point. -/
def runsFrom (first : Nat) : List (List Char) → List Run
  | [] => []
  | item :: rest =>
    let run := readRun first item
    run :: runsFrom (first + run.count) rest

/-- The runs of a run table. -/
def runs (s : String) : List Run := runsFrom 0 (items s)

/-- The code points whose label is wanted. -/
def labelled (runs : List Run) (wanted : String → Bool) : CodeSet :=
  .ofRanges ((runs.filter fun r => r.count != 0 && wanted r.label).map fun r =>
    (r.first, r.first + r.count - 1))

end RowServe.CodePoint
