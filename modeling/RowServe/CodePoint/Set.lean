/-!
# Sets of code points

A set of code points is the increasing list of the places where membership changes:
a code point is in the set if an odd number of bounds is at or below it. Union,
intersection and difference are one sweep over both lists.

Results:

* `contains_combine`: a sweep decides each code point by its two memberships.
* `contains_complement`: up to the last code point, the complement holds what the set
  does not.
* `contains_range`: a range holds what lies between its ends.
-/

namespace RowServe

/-- A set of code points, given by the places where membership changes. -/
structure CodeSet where
  bounds : List Nat
  increasing : bounds.Pairwise (· < ·)
  deriving DecidableEq

namespace CodeSet

/-- The last code point. -/
def lastCode : Nat := 0x10FFFF

/-! ## Membership -/

/-- Is a code point inside, if membership starts as given and changes at the bounds? -/
def inside (start : Bool) : List Nat → Nat → Bool
  | [], _ => start
  | b :: bs, c => if c < b then start else inside (!start) bs c

/-- Is the code point in the set? -/
def contains (s : CodeSet) (c : Nat) : Bool := inside false s.bounds c

/-- Is the character in the set? -/
def containsChar (s : CodeSet) (c : Char) : Bool := s.contains c.toNat

theorem inside_of_lt {bs : List Nat} {c : Nat} (h : ∀ b ∈ bs, c < b) (start : Bool) :
    inside start bs c = start := by
  cases bs with
  | nil => rfl
  | cons b bs => simp [inside, h b (by simp)]

/-- A map of the two truth values that tells them apart commutes with the changes. -/
theorem inside_map {f : Bool → Bool} (h : f false ≠ f true) (bs : List Nat) (c : Nat) :
    ∀ start, inside (f start) bs c = f (inside start bs c) := by
  induction bs with
  | nil => intro start; rfl
  | cons b bs ih =>
    intro start
    have flip : (!f start) = f (!start) := by
      cases start <;> cases h0 : f false <;> cases h1 : f true <;> simp_all
    simp only [inside]
    split
    · rfl
    · rw [flip, ih]

/-! ## Sweeps -/

/-- Puts a bound in front if membership changes there. -/
def bound (before after : Bool) (place : Nat) (rest : List Nat) : List Nat :=
  if before = after then rest else place :: rest

/-- Walks over two lists of bounds, with the memberships `a` and `b` so far, and keeps
    the places where the combined membership changes. -/
def sweep (op : Bool → Bool → Bool) (a b : Bool) : List Nat → List Nat → List Nat
  | [], ys => if op a false = op a true then [] else ys
  | xs, [] => if op false b = op true b then [] else xs
  | x :: xs, y :: ys =>
    if x < y then bound (op a b) (op (!a) b) x (sweep op (!a) b xs (y :: ys))
    else if y < x then bound (op a b) (op a (!b)) y (sweep op a (!b) (x :: xs) ys)
    else bound (op a b) (op (!a) (!b)) x (sweep op (!a) (!b) xs ys)
termination_by xs ys => xs.length + ys.length

theorem mem_bound {before after : Bool} {n c : Nat} {rest : List Nat}
    (h : c ∈ bound before after n rest) : c = n ∨ c ∈ rest := by
  unfold bound at h
  split at h
  · exact Or.inr h
  · simpa using h

theorem mem_sweep {op : Bool → Bool → Bool} {a b : Bool} {xs ys : List Nat} {c : Nat}
    (h : c ∈ sweep op a b xs ys) : c ∈ xs ∨ c ∈ ys := by
  fun_induction sweep op a b xs ys with
  | case1 => simp at h
  | case2 => exact Or.inr h
  | case3 => simp at h
  | case4 => exact Or.inl h
  | case5 a b x xs y ys _ ih => rcases mem_bound h with h | h <;> grind
  | case6 a b x xs y ys _ _ ih => rcases mem_bound h with h | h <;> grind
  | case7 a b x xs y ys _ _ ih => rcases mem_bound h with h | h <;> grind

theorem pairwise_bound {before after : Bool} {n : Nat} {rest : List Nat}
    (above : ∀ c ∈ rest, n < c) (h : rest.Pairwise (· < ·)) :
    (bound before after n rest).Pairwise (· < ·) := by
  unfold bound
  split
  · exact h
  · exact List.pairwise_cons.mpr ⟨above, h⟩

theorem pairwise_sweep (op : Bool → Bool → Bool) (a b : Bool) (xs ys : List Nat)
    (hx : xs.Pairwise (· < ·)) (hy : ys.Pairwise (· < ·)) :
    (sweep op a b xs ys).Pairwise (· < ·) := by
  fun_induction sweep op a b xs ys with
  | case1 => exact .nil
  | case2 => exact hy
  | case3 => exact .nil
  | case4 => exact hx
  | case5 a b x xs y ys lt ih =>
    rw [List.pairwise_cons] at hx
    refine pairwise_bound (fun c hc => ?_) (ih hx.2 hy)
    rcases mem_sweep hc with h | h
    · exact hx.1 c h
    · rw [List.pairwise_cons] at hy
      rcases List.mem_cons.mp h with rfl | h
      · exact lt
      · exact Nat.lt_trans lt (hy.1 c h)
  | case6 a b x xs y ys _ lt ih =>
    rw [List.pairwise_cons] at hy
    refine pairwise_bound (fun c hc => ?_) (ih hx hy.2)
    rcases mem_sweep hc with h | h
    · rw [List.pairwise_cons] at hx
      rcases List.mem_cons.mp h with rfl | h
      · exact lt
      · exact Nat.lt_trans lt (hx.1 c h)
    · exact hy.1 c h
  | case7 a b x xs y ys le ge ih =>
    rw [List.pairwise_cons] at hx hy
    refine pairwise_bound (fun c hc => ?_) (ih hx.2 hy.2)
    rcases mem_sweep hc with h | h
    · exact hx.1 c h
    · have := hy.1 c h
      omega

theorem inside_bound {before after : Bool} {n : Nat} {rest : List Nat} {c : Nat}
    (h : ∀ d ∈ rest, n < d) :
    inside before (bound before after n rest) c =
      if c < n then before else inside after rest c := by
  unfold bound
  split
  · rename_i same
    subst same
    split
    · exact inside_of_lt (fun d hd => by have := h d hd; omega) before
    · rfl
  · rename_i differ
    have : (!before) = after := by cases before <;> cases after <;> simp_all
    simp [inside, this]

theorem inside_sweep (op : Bool → Bool → Bool) (a b : Bool) (xs ys : List Nat) (c : Nat)
    (hx : xs.Pairwise (· < ·)) (hy : ys.Pairwise (· < ·)) :
    inside (op a b) (sweep op a b xs ys) c = op (inside a xs c) (inside b ys c) := by
  fun_induction sweep op a b xs ys with
  | case1 a b ys same =>
    simp only [inside]
    cases b <;> cases inside _ ys c <;> simp [same]
  | case2 a b ys differ => exact inside_map (f := fun v => op a v) differ ys c b
  | case3 a b xs _ same =>
    simp only [inside]
    cases a <;> cases inside _ xs c <;> simp [same]
  | case4 a b xs _ differ => exact inside_map (f := fun v => op v b) differ xs c a
  | case5 a b x xs y ys lt ih =>
    have hx' := List.pairwise_cons.mp hx
    have hy' := List.pairwise_cons.mp hy
    rw [inside_bound, ih hx'.2 hy]
    · by_cases hc : c < x
      · simp [inside, hc, Nat.lt_trans hc lt]
      · simp [inside, hc]
    · intro d hd
      rcases mem_sweep hd with h | h
      · exact hx'.1 d h
      · rcases List.mem_cons.mp h with rfl | h
        · exact lt
        · exact Nat.lt_trans lt (hy'.1 d h)
  | case6 a b x xs y ys _ lt ih =>
    have hx' := List.pairwise_cons.mp hx
    have hy' := List.pairwise_cons.mp hy
    rw [inside_bound, ih hx hy'.2]
    · by_cases hc : c < y
      · simp [inside, hc, Nat.lt_trans hc lt]
      · simp [inside, hc]
    · intro d hd
      rcases mem_sweep hd with h | h
      · rcases List.mem_cons.mp h with rfl | h
        · exact lt
        · exact Nat.lt_trans lt (hx'.1 d h)
      · exact hy'.1 d h
  | case7 a b x xs y ys le ge ih =>
    have hx' := List.pairwise_cons.mp hx
    have hy' := List.pairwise_cons.mp hy
    have same : x = y := by omega
    subst same
    rw [inside_bound, ih hx'.2 hy'.2]
    · simp only [inside]
      split <;> rfl
    · intro d hd
      rcases mem_sweep hd with h | h
      · exact hx'.1 d h
      · exact hy'.1 d h

/-- The code points that two memberships decide; nothing is decided from being in
    neither. -/
def combine (op : Bool → Bool → Bool) (s t : CodeSet) : CodeSet :=
  ⟨sweep op false false s.bounds t.bounds, pairwise_sweep op _ _ _ _ s.increasing t.increasing⟩

theorem contains_combine {op : Bool → Bool → Bool} (outside : op false false = false)
    (s t : CodeSet) (c : Nat) :
    (combine op s t).contains c = op (s.contains c) (t.contains c) := by
  have h := inside_sweep op false false s.bounds t.bounds c s.increasing t.increasing
  rwa [outside] at h

/-! ## Making sets -/

/-- Nothing. -/
def empty : CodeSet := ⟨[], .nil⟩

/-- The code points from one to another. -/
def range (first last : Nat) : CodeSet :=
  if h : first ≤ last then
    ⟨[first, last + 1], List.pairwise_cons.mpr
      ⟨fun _ mem => List.eq_of_mem_singleton mem ▸ Nat.lt_succ_of_le h, List.pairwise_singleton _ _⟩⟩
  else empty

/-- One code point. -/
def single (c : Nat) : CodeSet := range c c

/-- Every code point. -/
def all : CodeSet := range 0 lastCode

/-- What is in one of the sets. -/
def union (s t : CodeSet) : CodeSet := combine (· || ·) s t

/-- What is in both sets. -/
def inter (s t : CodeSet) : CodeSet := combine (· && ·) s t

/-- What is in the first set but not in the second. -/
def diff (s t : CodeSet) : CodeSet := combine (fun a b => a && !b) s t

/-- What is in one of the sets but not in both. -/
def symmDiff (s t : CodeSet) : CodeSet := combine (· != ·) s t

/-- Every code point that is not in the set. -/
def complement (s : CodeSet) : CodeSet := all.diff s

/-- What is in one of the ranges; both ends belong to a range. -/
def ofRanges (ranges : List (Nat × Nat)) : CodeSet :=
  ranges.foldr (fun (first, last) s => (range first last).union s) empty

/-- What is in one of the sets of a list. -/
def unions (sets : List CodeSet) : CodeSet := sets.foldl union empty

theorem contains_empty (c : Nat) : empty.contains c = false := rfl

theorem contains_range (first last c : Nat) :
    (range first last).contains c = (decide (first ≤ c) && decide (c ≤ last)) := by
  unfold range
  split
  · simp only [contains, inside]
    by_cases h1 : c < first <;> by_cases h2 : c < last + 1 <;> simp [h1, h2] <;> omega
  · rw [contains_empty, eq_comm, Bool.and_eq_false_iff, decide_eq_false_iff_not,
      decide_eq_false_iff_not]
    omega

theorem contains_union (s t : CodeSet) (c : Nat) :
    (s.union t).contains c = (s.contains c || t.contains c) :=
  contains_combine rfl s t c

theorem contains_inter (s t : CodeSet) (c : Nat) :
    (s.inter t).contains c = (s.contains c && t.contains c) :=
  contains_combine rfl s t c

theorem contains_diff (s t : CodeSet) (c : Nat) :
    (s.diff t).contains c = (s.contains c && !t.contains c) :=
  contains_combine rfl s t c

theorem contains_complement (s : CodeSet) {c : Nat} (h : c ≤ lastCode) :
    s.complement.contains c = !s.contains c := by
  simp [complement, contains_diff, all, contains_range, h]

theorem contains_ofRanges (ranges : List (Nat × Nat)) (c : Nat) :
    (ofRanges ranges).contains c = ranges.any fun (first, last) => first ≤ c && c ≤ last := by
  induction ranges with
  | nil => rfl
  | cons r rs ih => simp [ofRanges, contains_union, contains_range, ← ih]

/-! ## Reading sets -/

/-- The ranges between bounds; a last bound without a partner opens a range up to the
    last code point. -/
def pairs : List Nat → List (Nat × Nat)
  | first :: stop :: rest => (first, stop - 1) :: pairs rest
  | [first] => [(first, lastCode)]
  | [] => []

/-- The ranges of a set in increasing order, with gaps between them. -/
def ranges (s : CodeSet) : List (Nat × Nat) := pairs s.bounds

/-- Has the set no code point? -/
def isEmpty (s : CodeSet) : Bool := s.bounds.isEmpty

/-- Are all code points of the set ASCII? -/
def isAscii (s : CodeSet) : Bool := s.bounds.all (· ≤ 128)

/-- The only code point of a set that has just one. -/
def only? (s : CodeSet) : Option Nat :=
  match s.ranges with
  | [(first, last)] => if first = last then some first else none
  | _ => none

end CodeSet

end RowServe
