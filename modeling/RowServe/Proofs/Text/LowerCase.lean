import Mathlib.Data.List.Forall2
import RowServe.Text.Blank
import RowServe.Text.LowerCase

/-!
# Lower case, character by character

Lower-casing a text puts a piece of its own for every character: one or two characters that do
not depend on the rest of the text, but for the capital sigma. A class of characters that no run of
the table comes from or leads to stays as it is, so blanks, quotes and parentheses are where they
were.

Results:

* `lowerAfter_pieces`: the lower case of a text is put together from pieces.
* `Lowers.inRanges_iff`, `Lowers.stays`: what lower-casing does to a class that the table avoids.
* `Lowers.ascii`: ASCII letters are lower-cased as usual.
-/

namespace RowServe.Text

/-- A character may be lower-cased to the piece. -/
inductive Lowers : Char → List Char → Prop where
  | alone (c : Char) : Lowers c (lowerChar c)
  /-- A capital sigma at the end of a word. -/
  | final : Lowers 'Σ' ['ς']

theorem lowerAfter_pieces (before cs : List Char) :
    ∃ ps, List.Forall₂ Lowers cs ps ∧ lowerAfter before cs = ps.flatten := by
  induction cs generalizing before with
  | nil => exact ⟨[], .nil, rfl⟩
  | cons c cs ih =>
    obtain ⟨ps, hps, htail⟩ := ih (c :: before)
    have hpiece : ∃ p, Lowers c p ∧ lowerAfter before (c :: cs) = p ++ ps.flatten := by
      rw [← htail]
      by_cases hsigma : c = 'Σ'
      · subst hsigma
        by_cases hfinal : (nextIsCased before && !nextIsCased cs) = true
        · exact ⟨['ς'], .final, by simp only [lowerAfter, if_pos hfinal, if_true]⟩
        · have hsmall : lowerChar 'Σ' = ['σ'] := by decide +kernel
          exact ⟨['σ'], hsmall ▸ .alone 'Σ',
            by simp only [lowerAfter, if_neg hfinal, if_true]⟩
      · exact ⟨lowerChar c, .alone c, by simp only [lowerAfter, if_neg hsigma]⟩
    obtain ⟨p, hp, hwhole⟩ := hpiece
    exact ⟨p :: ps, .cons hp hps, hwhole⟩

theorem Lowers.ne_nil {c : Char} {p : List Char} (h : Lowers c p) : p ≠ [] := by
  cases h with
  | alone =>
    unfold lowerChar
    split_ifs <;> exact List.cons_ne_nil _ _
  | final => exact List.cons_ne_nil _ _

/-! ## Classes that the table avoids -/

/-- The characters that are lower-cased apart from the table, what they become, and the character
    that stands for a number of none. -/
def apartFromTable : List Char := ['İ', 'i', '\u0307', 'Σ', 'ς', '\x00']

/-- Neither a character with a lower case of its own nor what it becomes is in the ranges. -/
def avoids (ranges : List (Nat × Nat)) : Bool :=
  (lowerRuns.all fun r => 0 ≤ (r.first : Int) + r.shift && ranges.all fun (first, last) =>
    (r.last < first || last < r.first) &&
      (((r.last : Int) + r.shift < first) || ((last : Int) < r.first + r.shift))) &&
  apartFromTable.all fun c => !inRanges ranges c

variable {ranges : List (Nat × Nat)} {c : Char} {p : List Char}

theorem apart_avoids (h : avoids ranges = true) (hc : c ∈ apartFromTable) :
    inRanges ranges c = false := by
  simp only [avoids, Bool.and_eq_true, List.all_eq_true] at h
  simpa using h.2 c hc

/-- A number that is no character stands for the null character. -/
theorem ofNat_cases (n : Nat) : Char.ofNat n = '\x00' ∨ (Char.ofNat n).toNat = n := by
  unfold Char.ofNat
  by_cases hvalid : n.isValidChar
  · rw [dif_pos hvalid]
    exact .inr rfl
  · rw [dif_neg hvalid]
    exact .inl rfl

theorem run_avoids (h : avoids ranges = true) {r : ShiftRun} (hr : r ∈ lowerRuns)
    (hc : r.holds c.toNat = true) :
    inRanges ranges c = false ∧
      inRanges ranges (Char.ofNat ((c.toNat : Int) + r.shift).toNat) = false := by
  have hnull : inRanges ranges '\x00' = false := apart_avoids h (by decide)
  simp only [avoids, Bool.and_eq_true, List.all_eq_true, decide_eq_true_eq] at h
  obtain ⟨hpositive, hruns⟩ := h.1 r hr
  simp only [ShiftRun.holds, Bool.and_eq_true, decide_eq_true_eq] at hc
  obtain ⟨⟨hfirst, hlast⟩, _⟩ := hc
  constructor
  · apply List.any_eq_false.mpr
    intro range hrange
    have hapart := hruns range hrange
    simp only [Bool.and_eq_true, Bool.or_eq_true, decide_eq_true_eq] at hapart ⊢
    omega
  · rcases ofNat_cases ((c.toNat : Int) + r.shift).toNat with hnone | hvalue
    · rw [hnone]
      exact hnull
    · apply List.any_eq_false.mpr
      intro range hrange
      have hapart := hruns range hrange
      simp only [hvalue, Bool.and_eq_true, Bool.or_eq_true, decide_eq_true_eq] at hapart ⊢
      omega

/-- A class that the table avoids is neither left nor entered by lower-casing. -/
theorem Lowers.inRanges_iff (h : avoids ranges = true) (hp : Lowers c p) {d : Char} (hd : d ∈ p) :
    inRanges ranges d = inRanges ranges c := by
  cases hp with
  | final =>
    rw [List.mem_singleton.mp hd, apart_avoids h (c := 'ς') (by decide),
      apart_avoids h (c := 'Σ') (by decide)]
  | alone =>
    unfold lowerChar at hd
    split_ifs at hd with hdotted
    · rw [hdotted, apart_avoids h (c := 'İ') (by decide)]
      rcases List.mem_pair.mp hd with rfl | rfl <;> exact apart_avoids h (by decide)
    · rw [List.mem_singleton.mp hd]
      unfold shiftBy
      cases hfind : lowerRuns.find? (·.holds c.toNat) with
      | none => rfl
      | some r =>
        have hholds := List.find?_some hfind
        obtain ⟨hfrom, hto⟩ := run_avoids h (List.mem_of_find?_eq_some hfind) hholds
        exact hto.trans hfrom.symm

/-- The characters of a class that the table avoids stay. -/
theorem Lowers.stays (h : avoids ranges = true) (hp : Lowers c p)
    (hc : inRanges ranges c = true) : p = [c] := by
  have hne : c ∉ apartFromTable := by
    intro hmem
    rw [apart_avoids h hmem] at hc
    contradiction
  cases hp with
  | final => exact absurd (by decide) hne
  | alone =>
    unfold lowerChar
    rw [if_neg (by rintro rfl; exact hne (by decide))]
    unfold shiftBy
    cases hfind : lowerRuns.find? (·.holds c.toNat) with
    | none => rfl
    | some r =>
      have hholds := List.find?_some hfind
      have hout := (run_avoids h (List.mem_of_find?_eq_some hfind) hholds).1
      rw [hc] at hout
      contradiction

/-! ## ASCII -/

theorem lowerChar_ascii (hc : c.toNat < 128) : lowerChar c = [c.toLower] := by
  have htable : ∀ n < 128, lowerChar (Char.ofNat n) = [(Char.ofNat n).toLower] := by
    decide +kernel
  simpa using htable c.toNat hc

/-- ASCII letters are lower-cased as usual. -/
theorem Lowers.ascii (hp : Lowers c p) (hc : c.toNat < 128) : p = [c.toLower] := by
  cases hp with
  | alone => exact lowerChar_ascii hc
  | final => exact absurd hc (by decide)

end RowServe.Text
