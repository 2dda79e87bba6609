/-!
# Pieces of a text

Cutting a text at separators.

Results:

* `intercalate_splitOn`: joining the pieces with the separator gives the text back.
* `splitOnce_eq_some`, `splitOnce_of_split`: the first cut point is found.
* `splitOnce_eq_none_iff`: there is no cut point.
-/

namespace RowServe.Text

/-- The pieces between occurrences of one character; a text without it is one piece. -/
def splitOn (sep : Char) : List Char → List (List Char)
  | [] => [[]]
  | c :: rest =>
    if c = sep then [] :: splitOn sep rest
    else
      match splitOn sep rest with
      | [] => [[c]]
      | piece :: pieces => (c :: piece) :: pieces

/-- The pieces between occurrences of a separator text, which is not empty. `skip`
    characters of the last separator are still to be passed over; `piece` is the
    current piece, its last character first. -/
def splitOnSeqFrom (sep : List Char) (skip : Nat) (piece : List Char) :
    List Char → List (List Char)
  | [] => [piece.reverse]
  | c :: rest =>
    match skip with
    | skip + 1 => splitOnSeqFrom sep skip piece rest
    | 0 =>
      if sep.isPrefixOf (c :: rest) then
        piece.reverse :: splitOnSeqFrom sep (sep.length - 1) [] rest
      else splitOnSeqFrom sep 0 (c :: piece) rest

/-- The pieces between occurrences of a separator text. -/
def splitOnSeq (sep cs : List Char) : List (List Char) := splitOnSeqFrom sep 0 [] cs

/-- What stands before and behind the first occurrence of a character. -/
def splitOnce (sep : Char) : List Char → Option (List Char × List Char)
  | [] => none
  | c :: rest =>
    if c = sep then some ([], rest)
    else (splitOnce sep rest).map fun (before, after) => (c :: before, after)

/-- What stands before and behind the last occurrence of a character. -/
def splitLast (sep : Char) : List Char → Option (List Char × List Char)
  | [] => none
  | c :: rest =>
    match splitLast sep rest with
    | some (before, after) => some (c :: before, after)
    | none => if c = sep then some ([], rest) else none

theorem intercalate_splitOn (sep : Char) (cs : List Char) :
    List.intercalate [sep] (splitOn sep cs) = cs := by
  induction cs with
  | nil => simp [splitOn, List.intercalate]
  | cons c cs ih =>
    have ne : splitOn sep cs ≠ [] := by
      cases cs with
      | nil => simp [splitOn]
      | cons d ds =>
        simp only [splitOn]
        split
        · simp
        · split <;> simp
    obtain ⟨p, ps, hp⟩ := List.exists_cons_of_ne_nil ne
    simp only [splitOn, hp]
    rw [hp] at ih
    split
    · rename_i h
      subst h
      cases ps with
      | nil => simpa [List.intercalate] using ih
      | cons q qs => simpa [List.intercalate] using ih
    · cases ps with
      | nil => simpa [List.intercalate] using ih
      | cons q qs => simpa [List.intercalate] using ih

theorem splitOnce_eq_some {sep : Char} {cs before after : List Char}
    (h : splitOnce sep cs = some (before, after)) :
    cs = before ++ sep :: after ∧ sep ∉ before := by
  induction cs generalizing before with
  | nil => simp [splitOnce] at h
  | cons c cs ih =>
    simp only [splitOnce] at h
    split at h
    · rename_i hc
      simp only [Option.some.injEq, Prod.mk.injEq] at h
      obtain ⟨rfl, rfl⟩ := h
      simp [hc]
    · rename_i hc
      obtain ⟨⟨b, a⟩, hs, he⟩ := Option.map_eq_some_iff.mp h
      simp only [Prod.mk.injEq] at he
      obtain ⟨rfl, rfl⟩ := he
      obtain ⟨h1, h2⟩ := ih hs
      exact ⟨by rw [h1]; rfl, by simp [Ne.symm hc, h2]⟩

theorem splitOnce_of_split {sep : Char} {before after : List Char} (h : sep ∉ before) :
    splitOnce sep (before ++ sep :: after) = some (before, after) := by
  induction before with
  | nil => simp [splitOnce]
  | cons c before ih =>
    obtain ⟨hc, hbefore⟩ := not_or.mp (mt List.mem_cons.mpr h)
    rw [List.cons_append, splitOnce, if_neg (Ne.symm hc), ih hbefore]
    rfl

theorem splitOnce_eq_none_iff {sep : Char} {cs : List Char} :
    splitOnce sep cs = none ↔ sep ∉ cs := by
  constructor
  · intro h hmem
    obtain ⟨before, after, rfl, hbefore⟩ := List.eq_append_cons_of_mem hmem
    rw [splitOnce_of_split hbefore] at h
    contradiction
  · intro h
    cases hsplit : splitOnce sep cs with
    | none => rfl
    | some parts =>
      obtain ⟨rfl, _⟩ := splitOnce_eq_some hsplit
      exact absurd (by simp) h

end RowServe.Text
