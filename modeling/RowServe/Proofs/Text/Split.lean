import RowServe.Text.Split

/-!
# Pieces and cuts of texts

The last occurrence of a character, and the pieces of a text between the occurrences of a separator
text.

Results:

* `splitLast_of_split`: a text is cut at the character behind which there is none of its kind.
* `not_infix_of_mem_splitOnSeq`: no piece has the separator in it.
* `splitOnSeq_intercalate`: texts without a separator of two characters are the pieces of what joins
  them.
-/

namespace RowServe.Text

/-! ## The last occurrence -/

theorem splitLast_eq_none_iff {sep : Char} {cs : List Char} :
    splitLast sep cs = none ↔ sep ∉ cs := by
  induction cs with
  | nil => simp [splitLast]
  | cons c cs ih =>
    rw [List.mem_cons, not_or, ← ih, splitLast]
    cases splitLast sep cs with
    | none => simp [eq_comm]
    | some parts => simp

theorem splitLast_of_split {sep : Char} {before after : List Char} (h : sep ∉ after) :
    splitLast sep (before ++ sep :: after) = some (before, after) := by
  induction before with
  | nil => simp [splitLast, splitLast_eq_none_iff.mpr h]
  | cons c before ih => rw [List.cons_append, splitLast, ih]

theorem splitLast_eq_some {sep : Char} {cs before after : List Char}
    (h : splitLast sep cs = some (before, after)) : cs = before ++ sep :: after ∧ sep ∉ after := by
  induction cs generalizing before with
  | nil => contradiction
  | cons c cs ih =>
    rw [splitLast] at h
    cases hrest : splitLast sep cs with
    | none =>
      rw [hrest] at h
      obtain ⟨rfl, heq⟩ := Option.ite_none_right_eq_some.mp h
      obtain ⟨rfl, rfl⟩ := Prod.mk.inj (Option.some.inj heq)
      exact ⟨rfl, splitLast_eq_none_iff.mp hrest⟩
    | some parts =>
      rw [hrest] at h
      obtain ⟨rfl, rfl⟩ := Prod.mk.inj (Option.some.inj h)
      obtain ⟨heq, hafter⟩ := ih hrest
      exact ⟨by rw [heq, List.cons_append], hafter⟩

/-! ## Separator texts -/

variable {sep cs piece rest p : List Char}

/-- Characters of a separator are passed over. -/
theorem splitOnSeqFrom_skip (sep piece cs : List Char) (skip : Nat) :
    splitOnSeqFrom sep skip piece cs = splitOnSeqFrom sep 0 piece (cs.drop skip) := by
  induction cs generalizing skip with
  | nil => simp [splitOnSeqFrom]
  | cons c cs ih =>
    cases skip with
    | zero => rfl
    | succ skip => rw [splitOnSeqFrom, ih, List.drop_succ_cons]

/-- The piece under way begins the first piece. -/
theorem splitOnSeqFrom_piece (sep piece cs : List Char) :
    splitOnSeqFrom sep 0 piece cs = (splitOnSeq sep cs).modifyHead (piece.reverse ++ ·) := by
  unfold splitOnSeq
  induction cs generalizing piece with
  | nil => simp [splitOnSeqFrom]
  | cons c cs ih =>
    unfold splitOnSeqFrom
    dsimp only
    split
    · simp
    · rw [ih (c :: piece), ih [c], List.modifyHead_modifyHead]
      simp [Function.comp_def]

theorem splitOnSeq_sep (hsep : sep ≠ []) (cs : List Char) :
    splitOnSeq sep (sep ++ cs) = [] :: splitOnSeq sep cs := by
  obtain ⟨s, ss, rfl⟩ := List.exists_cons_of_ne_nil hsep
  have hstart : (s :: ss).isPrefixOf (s :: (ss ++ cs)) = true := by
    rw [List.isPrefixOf_iff_prefix]
    exact List.prefix_append (s :: ss) cs
  rw [List.cons_append, splitOnSeq, splitOnSeqFrom, if_pos hstart, splitOnSeqFrom_skip]
  simp [splitOnSeq]

theorem splitOnSeq_cons {c : Char} (h : ¬ sep <+: c :: cs) :
    splitOnSeq sep (c :: cs) = (splitOnSeq sep cs).modifyHead (c :: ·) := by
  have hstart : ¬ sep.isPrefixOf (c :: cs) = true := mt List.isPrefixOf_iff_prefix.mp h
  rw [splitOnSeq, splitOnSeqFrom, if_neg hstart, splitOnSeqFrom_piece]
  rfl

/-- The first piece begins the text. -/
theorem splitOnSeq_head (hsep : sep ≠ []) (cs : List Char) :
    ∃ p ps, splitOnSeq sep cs = p :: ps ∧ p <+: cs := by
  induction cs with
  | nil => exact ⟨[], [], rfl, List.nil_prefix⟩
  | cons c cs ih =>
    by_cases hstart : sep <+: c :: cs
    · obtain ⟨rest, hrest⟩ := hstart
      rw [← hrest, splitOnSeq_sep hsep]
      exact ⟨[], _, rfl, List.nil_prefix⟩
    · obtain ⟨p, ps, hps, hp⟩ := ih
      rw [splitOnSeq_cons hstart, hps]
      exact ⟨c :: p, ps, rfl, List.cons_prefix_cons.mpr ⟨rfl, hp⟩⟩

/-- No piece has the separator in it. -/
theorem not_infix_of_mem_splitOnSeq (hsep : sep ≠ []) (hp : p ∈ splitOnSeq sep cs) :
    ¬ sep <:+: p := by
  have hnil : ¬ sep <:+: [] := mt List.infix_nil.mp hsep
  induction hlength : cs.length using Nat.strongRecOn generalizing cs p with
  | ind n ih =>
    cases cs with
    | nil => exact List.mem_singleton.mp hp ▸ hnil
    | cons c cs =>
      by_cases hstart : sep <+: c :: cs
      · obtain ⟨rest, hrest⟩ := hstart
        have hshorter : rest.length < n := by
          have := congrArg List.length hrest
          have := List.length_pos_iff.mpr hsep
          simp only [List.length_append] at *
          omega
        rw [← hrest, splitOnSeq_sep hsep] at hp
        rcases List.mem_cons.mp hp with rfl | hp
        · exact hnil
        · exact ih _ hshorter hp rfl
      · obtain ⟨q, qs, hqs, hq⟩ := splitOnSeq_head hsep cs
        have hshorter : cs.length < n := hlength ▸ Nat.lt_succ_self _
        have hbehind : ∀ p ∈ q :: qs, ¬ sep <:+: p := fun p hp =>
          ih _ hshorter (hqs ▸ hp) rfl
        rw [splitOnSeq_cons hstart, hqs, List.modifyHead_cons] at hp
        rcases List.mem_cons.mp hp with rfl | hp
        · rw [List.infix_cons_iff, not_or]
          exact ⟨fun h => hstart (h.trans (List.cons_prefix_cons.mpr ⟨rfl, hq⟩)),
            hbehind q List.mem_cons_self⟩
        · exact hbehind p (List.mem_cons_of_mem q hp)

theorem splitOnSeq_of_not_infix (h : ¬ sep <:+: cs) : splitOnSeq sep cs = [cs] := by
  induction cs with
  | nil => rfl
  | cons c cs ih =>
    rw [List.infix_cons_iff, not_or] at h
    rw [splitOnSeq_cons h.1, ih h.2, List.modifyHead_cons]

section Pair

/-! A separator of two different characters cannot overlap with itself. -/

variable {a b : Char} {x : List Char}

theorem splitOnSeq_append (hab : a ≠ b) (hx : ¬ [a, b] <:+: x) (rest : List Char) :
    splitOnSeq [a, b] (x ++ [a, b] ++ rest) = x :: splitOnSeq [a, b] rest := by
  induction x with
  | nil => exact splitOnSeq_sep (List.cons_ne_nil a [b]) rest
  | cons c x ih =>
    rw [List.infix_cons_iff, not_or] at hx
    have hstart : ¬ [a, b] <+: c :: (x ++ [a, b] ++ rest) := by
      cases x with
      | nil => simp [hab.symm]
      | cons d x => simpa using hx.1
    rw [List.cons_append, List.cons_append, splitOnSeq_cons hstart, ih hx.2, List.modifyHead_cons]

/-- Texts without the separator are the pieces of what joins them. -/
theorem splitOnSeq_intercalate (hab : a ≠ b) {xs : List (List Char)} (hne : xs ≠ [])
    (h : ∀ x ∈ xs, ¬ [a, b] <:+: x) : splitOnSeq [a, b] (List.intercalate [a, b] xs) = xs := by
  induction xs with
  | nil => contradiction
  | cons x xs ih =>
    cases xs with
    | nil => simpa using splitOnSeq_of_not_infix (h x List.mem_cons_self)
    | cons y xs =>
      have hrest := ih (List.cons_ne_nil y xs) fun z hz => h z (List.mem_cons_of_mem x hz)
      rw [List.intercalate_cons_cons, splitOnSeq_append hab (h x List.mem_cons_self), hrest]

end Pair

end RowServe.Text
