import Mathlib.Data.List.DropRight
import Mathlib.Data.List.TakeWhile
import RowServe.Text.Blank

/-!
# Trimmed texts

Trimming takes blanks away at both ends and leaves what is between them.

Results:

* `trimList_split`, `trimList_ends`: what is taken away is blank, and what is left has no blanks at
  its ends.
* `trimList_between`: a text without blanks at its ends is what is left of it between blanks.
* `begins_iff`: nothing is taken away in front of a text that begins without a blank.
* `count_trimList`: characters that are no blanks stay, as many as there are.
-/

namespace RowServe.Text

variable {c : Char} {cs front back : List Char}

theorem trimFrontList_split (cs : List Char) :
    ∃ front, cs = front ++ trimFrontList cs ∧ ∀ c ∈ front, isBlank c = true :=
  ⟨cs.takeWhile isBlank, List.takeWhile_append_dropWhile.symm,
    fun _ hc => List.mem_takeWhile_imp hc⟩

/-- What trimming takes away is blank. -/
theorem trimList_split (cs : List Char) :
    ∃ front back, cs = front ++ trimList cs ++ back ∧ (∀ c ∈ front, isBlank c = true) ∧
      ∀ c ∈ back, isBlank c = true := by
  obtain ⟨front, hfront, hblank⟩ := trimFrontList_split cs
  obtain ⟨back, hback, hblank'⟩ := trimFrontList_split (trimFrontList cs).reverse
  refine ⟨front, back.reverse, ?_, hblank, fun c hc => hblank' c (List.mem_reverse.mp hc)⟩
  have hkept : trimFrontList cs = trimList cs ++ back.reverse := by
    rw [← List.reverse_reverse (trimFrontList cs), hback, List.reverse_append]
    rfl
  rw [List.append_assoc, ← hkept, ← hfront]

/-- A trimmed text has no blanks at its ends. -/
theorem trimList_ends (cs : List Char) :
    (∀ c, (trimList cs).head? = some c → isBlank c = false) ∧
      ∀ c, (trimList cs).getLast? = some c → isBlank c = false := by
  have hfront (ds : List Char) (c : Char) (hc : (trimFrontList ds).head? = some c) :
      isBlank c = false := by
    have hfirst := List.head?_dropWhile_not isBlank ds
    rw [show (ds.dropWhile isBlank).head? = some c from hc] at hfirst
    exact hfirst
  constructor
  · intro c hc
    obtain ⟨more, hmore⟩ : trimList cs <+: trimFrontList cs := List.rdropWhile_prefix isBlank _
    apply hfront cs c
    rw [← hmore, List.head?_append, hc]
    rfl
  · intro c hc
    rw [trimList, List.getLast?_reverse] at hc
    exact hfront _ c hc

theorem trimFrontList_blank (h : ∀ c ∈ front, isBlank c = true) :
    trimFrontList (front ++ cs) = trimFrontList cs := by
  unfold trimFrontList
  induction front with
  | nil => rfl
  | cons c front ih =>
    obtain ⟨hc, hfront⟩ := List.forall_mem_cons.mp h
    rw [List.cons_append, List.dropWhile_cons_of_pos hc, ih hfront]

theorem trimList_blank (h : ∀ c ∈ front, isBlank c = true) :
    trimList (front ++ cs) = trimList cs := by
  rw [trimList, trimFrontList_blank h, trimList]

/-- Blanks in front of a text that begins with none are taken away. -/
theorem trimFrontList_between (hfront : ∀ c ∈ front, isBlank c = true)
    (hhead : ∀ c, cs.head? = some c → isBlank c = false) : trimFrontList (front ++ cs) = cs := by
  rw [trimFrontList_blank hfront]
  cases cs with
  | nil => rfl
  | cons c cs => exact trimFrontList_of_head (hhead c rfl)

/-- Blanks around a text that has none at its ends are taken away. -/
theorem trimList_between (hfront : ∀ c ∈ front, isBlank c = true)
    (hhead : ∀ c, cs.head? = some c → isBlank c = false)
    (hlast : ∀ c, cs.getLast? = some c → isBlank c = false)
    (hback : ∀ c ∈ back, isBlank c = true) : trimList (front ++ cs ++ back) = cs := by
  have hstop : trimFrontList (back.reverse ++ cs.reverse) = cs.reverse :=
    trimFrontList_between (by simpa using hback) (by simpa using hlast)
  rw [List.append_assoc, trimList_blank hfront, trimList]
  cases cs with
  | nil =>
    have hnone : trimFrontList back = [] := by
      simpa [trimFrontList] using hback
    rw [List.nil_append, hnone]
    rfl
  | cons c cs =>
    rw [List.cons_append, trimFrontList_of_head (hhead c rfl), ← List.cons_append,
      List.reverse_append, hstop, List.reverse_reverse]

/-- A text begins without a blank exactly if trimming leaves something and takes nothing away in
    front of it. -/
theorem begins_iff : (∃ c, cs.head? = some c ∧ isBlank c = false) ↔
    trimList cs ≠ [] ∧ ∃ back, cs = trimList cs ++ back ∧ ∀ c ∈ back, isBlank c = true := by
  constructor
  · rintro ⟨c, hc, hblank⟩
    obtain ⟨front, back, hsplit, hfront, hback⟩ := trimList_split cs
    have hnotMem {blanks : List Char} (h : ∀ d ∈ blanks, isBlank d = true) : c ∉ blanks := by
      intro hmem
      rw [h c hmem] at hblank
      contradiction
    have hnil : front = [] := by
      cases front with
      | nil => rfl
      | cons d front =>
        rw [hsplit] at hc
        obtain rfl := Option.some.inj hc
        exact absurd List.mem_cons_self (hnotMem hfront)
    rw [hnil, List.nil_append] at hsplit
    refine ⟨fun hempty => hnotMem hback (List.mem_of_head? ?_), back, hsplit, hback⟩
    rwa [hsplit, hempty, List.nil_append] at hc
  · rintro ⟨hne, back, hsplit, _⟩
    obtain ⟨c, rest, hrest⟩ := List.exists_cons_of_ne_nil hne
    refine ⟨c, ?_, (trimList_ends cs).1 c (by rw [hrest]; rfl)⟩
    rw [hsplit, hrest]
    rfl

theorem count_trimList (hc : isBlank c = false) (cs : List Char) :
    (trimList cs).count c = cs.count c := by
  have hnone {ds : List Char} (h : ∀ d ∈ ds, isBlank d = true) : ds.count c = 0 :=
    List.count_eq_zero.mpr fun hmem => by simp [h c hmem] at hc
  obtain ⟨front, back, hsplit, hfront, hback⟩ := trimList_split cs
  rw [hsplit, List.count_append, List.count_append, hnone hfront, hnone hback, ← hsplit]
  omega

end RowServe.Text
