import RowServe.Pattern.Basic

/-!
# The size of a pattern

A search runs a pattern as an automaton over the bytes of UTF-8, once forwards and once
backwards, and a pattern with too large an automaton is refused. The size is counted in
bytes: 32 for each state, 8 for each transition of a state with several of them, and 4 for
each branch of a state that reads nothing. A repetition with counts is written out, so its
size grows with the counts.

Results:

* `size_times`: a part that is repeated a number of times counts that many times.
-/

namespace RowServe

/-! ## The bytes of a set -/

namespace CodeSet

/-- Leading values that are followed by the same values: those of `inside`, counted from the
    start of a block. -/
structure Branch where
  first : Nat
  last : Nat
  inside : List (Nat × Nat)
  deriving DecidableEq

/-- A range cut at the bounds of blocks: a part of a first block, whole blocks, and a part of
    a last one. -/
def cut (block : Nat) (range : Nat × Nat) : List Branch :=
  let (first, last) := range
  let low := first / block
  let high := last / block
  if low = high then [⟨low, low, [(first % block, last % block)]⟩]
  else
    let whole := (if first % block = 0 then low else low + 1,
      if last % block = block - 1 then high else high - 1)
    (if first % block = 0 then [] else [⟨low, low, [(first % block, block - 1)]⟩]) ++
      (if whole.1 ≤ whole.2 then [⟨whole.1, whole.2, [(0, block - 1)]⟩] else []) ++
      (if last % block = block - 1 then [] else [⟨high, high, [(0, last % block)]⟩])

/-- Puts a branch in front; two with the same leading values become one. -/
def Branch.join (b : Branch) : List Branch → List Branch
  | c :: rest =>
    if b.first = c.first && b.last = c.last then ⟨b.first, b.last, b.inside ++ c.inside⟩ :: rest
    else b :: c :: rest
  | [] => [b]

/-- The branches of ranges, for blocks of more than one value; single values have none. -/
def branches (block : Nat) (ranges : List (Nat × Nat)) : List Branch :=
  if block = 1 then ranges.map fun (first, last) => ⟨first, last, []⟩
  else (ranges.flatMap (cut block)).foldr Branch.join []

/-- The ranges of a set whose code points take one, two, three and four bytes. Halves of
    surrogate pairs have no bytes. -/
def byLength (s : CodeSet) : List (List (Nat × Nat)) :=
  [(s.inter (range 0 0x7F)).ranges, (s.inter (range 0x80 0x7FF)).ranges,
   (s.inter (ofRanges [(0x800, 0xD7FF), (0xE000, 0xFFFF)])).ranges,
   (s.inter (range 0x10000 lastCode)).ranges]

/-- The size of states with one transition for each branch, of which equal ones count once,
    and what follows behind their branches. -/
def layer (block : Nat) (states : List (List (Nat × Nat))) : Nat × List (List (Nat × Nat)) :=
  let all := states.eraseDups.map (branches block)
  (all.foldl (fun n bs => n + 32 + 8 * bs.length) 0, all.flatMap fun bs => bs.map (·.inside))

/-- The size of the automaton that reads the bytes of a set forwards. Equal ends of byte
    sequences are shared. -/
def forwardSize (s : CodeSet) : Nat :=
  match s.byLength with
  | [one, two, three, four] =>
    let two := branches 64 two
    let three := branches 4096 three
    let four := branches 262144 four
    let (size3, states2) := layer 4096 (four.map (·.inside))
    let (size2, states1) := layer 64 (states2 ++ three.map (·.inside))
    let (size1, _) := layer 1 (states1 ++ two.map (·.inside))
    64 + 8 * (one.length + two.length + three.length + four.length) + size1 + size2 + size3
  | _ => 0

/-- The number of byte sequences, each byte of which is taken from a range, for code points
    of so many bytes. -/
def sequenceCount : Nat → List (Nat × Nat) → Nat
  | 0, _ => 1
  | n + 1, ranges =>
    ((branches (Nat.pow 64 n) ranges).map fun b => sequenceCount n b.inside).foldl (· + ·) 0

/-- The number of different beginnings of these sequences. -/
def beginningCount : Nat → List (Nat × Nat) → Nat
  | 0, _ => 0
  | n + 1, ranges =>
    ((branches (Nat.pow 64 n) ranges).map fun b => 1 + beginningCount n b.inside).foldl (· + ·) 0

/-- The size of the automaton that reads the bytes of a set backwards. Each sequence is a
    branch of its own, and equal beginnings are shared. -/
def backwardSize (s : CodeSet) : Nat :=
  ((s.byLength.zip [1, 2, 3, 4]).map fun (ranges, n) =>
    4 * sequenceCount n ranges + 32 * beginningCount n ranges).foldl (· + ·) 64

/-- The number of bytes of a code point. -/
def byteCount (c : Nat) : Nat :=
  if c < 0x80 then 1 else if c < 0x800 then 2 else if c < 0x10000 then 3 else 4

end CodeSet

namespace Pattern

/-- Which way an automaton reads a text. -/
inductive Direction where
  | forward | backward
  deriving DecidableEq, Repr

/-- The size of the automaton of a set. A single code point is a row of bytes, and ASCII
    takes one state with a transition for each range. -/
def setSize (way : Direction) (s : CodeSet) : Nat :=
  if s.isEmpty then 32
  else
    match s.only? with
    | some c => 32 * CodeSet.byteCount c
    | none =>
      if s.isAscii then 64 + 8 * s.ranges.length
      else
        match way with
        | .forward => s.forwardSize
        | .backward => s.backwardSize

/-! ## The states of a pattern -/

/-- Does every match have a character? -/
def consumes : Pattern → Bool
  | empty => false
  | set s => !s.isEmpty
  | anchor _ => false
  | group p => p.consumes
  | seq p q => p.consumes || q.consumes
  | alt p q => p.consumes && q.consumes
  | times p min _ => min != 0 && p.consumes

/-- The size of a repetition of a part, by its counts and the size of the part. -/
def repetitionSize (consuming : Bool) (part : Nat) : Nat → Option Nat → Nat
  | 0, some 1 => part + 72
  | 0, none => if consuming then part + 40 else part + 112
  | min, none => min * part + 40
  | min, some max =>
    if min = max then min * part
    else (if min = 0 then 32 else min * part) + 32 + (max - min) * (part + 40)

/-- The number of branches that a choice opens, and the size of them all. A choice inside of a
    choice opens its branches there. -/
structure Weight where
  branches : Nat
  size : Nat

/-- One branch. -/
def Weight.one (size : Nat) : Weight := ⟨1, size⟩

/-- The size with the states that open and close a choice. -/
def Weight.total (w : Weight) : Nat :=
  if w.branches = 1 then w.size else w.size + 64 + 4 * w.branches

/-- The weight of a pattern. What a group matched is kept on the way forwards only. -/
def weight (way : Direction) : Pattern → Weight
  | empty => .one 32
  | set s => .one (setSize way s)
  | anchor _ => .one 32
  | group p =>
    .one ((weight way p).total + match way with | .forward => 64 | .backward => 0)
  | seq p q => .one ((weight way p).total + (weight way q).total)
  | alt p q =>
    ⟨(weight way p).branches + (weight way q).branches, (weight way p).size + (weight way q).size⟩
  | times p min max => .one (repetitionSize p.consumes (weight way p).total min max)

/-- The size of a pattern. -/
def size (way : Direction) (p : Pattern) : Nat := (weight way p).total

/-- The largest size of a pattern with the states around it: ten mebibytes. -/
def sizeLimit : Nat := 10 * 1024 * 1024

/-- The size of the states around a pattern: they skip what is before a match, keep the match
    on the way forwards, and accept it. -/
def frameSize : Direction → Nat
  | .forward => 208
  | .backward => 144

/-- Is the pattern within the limit both ways? -/
def isWithinLimit (p : Pattern) : Bool :=
  [Direction.forward, .backward].all fun way => size way p + frameSize way ≤ sizeLimit

theorem size_times (way : Direction) (p : Pattern) {n : Nat} (h : 2 ≤ n) :
    size way (times p n (some n)) = n * size way p := by
  match n, h with
  | n + 2, _ => simp [size, weight, Weight.one, Weight.total, repetitionSize]

end Pattern

end RowServe
