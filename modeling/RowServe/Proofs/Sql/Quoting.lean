import RowServe.Sql.Identifier

/-!
# Quoted texts

A text in quotes says itself where it ends: at the first quote that is not doubled. What is read
from it, and what is left behind it, therefore depends on nothing that follows, as long as no
other quote does.

Results:

* `readEnclosed_eq_some_iff`: what is read is what has been written, and nothing else is read.
* `enclosed_inj`: quoted texts that are the same together with what follows.
* `qualified_append_inj`: columns of tables that are the same together with what follows.
* `quoting_exact`: identifiers, literals and columns of tables.
-/

namespace RowServe.Sql

variable {quote : Char} {s t : String} {cs rest rest' : List Char}

theorem length_doubled (quote : Char) (cs : List Char) :
    cs.length ≤ (doubled quote cs).length := by
  induction cs with
  | nil => exact Nat.zero_le _
  | cons c cs ih =>
    have hc : 0 < (if c = quote then [quote, quote] else [c]).length := by
      split <;> exact Nat.succ_pos _
    unfold doubled at ih ⊢
    rw [List.flatMap_cons, List.length_append, List.length_cons]
    omega

/-- A quoted identifier is longer than its name by two characters or more. -/
theorem length_quoted (name : String) : name.toList.length + 2 ≤ (quoted name).toList.length := by
  have hdoubled := length_doubled '"' name.toList
  simp only [quoted, enclosed, String.toList_ofList, List.length_cons, List.length_append,
    List.length_nil]
  omega

/-- The characters that are read have been doubled, and the quote behind them is followed by
    none. -/
theorem eq_doubled_of_read {ds : List Char} (h : readDoubled quote cs = some (ds, rest)) :
    cs = doubled quote ds ++ quote :: rest ∧ rest.head? ≠ some quote := by
  induction cs using readDoubled.induct quote generalizing ds with
  | case1 => simp [readDoubled] at h
  | case2 =>
    simp only [readDoubled, if_true, Option.some.injEq, Prod.mk.injEq] at h
    obtain ⟨rfl, rfl⟩ := h
    exact ⟨rfl, by simp⟩
  | case3 c hc => simp [readDoubled, hc] at h
  | case4 _ ih =>
    simp only [readDoubled, if_true] at h
    obtain ⟨⟨es, r⟩, hread, hpair⟩ := Option.map_eq_some_iff.mp h
    obtain ⟨rfl, rfl⟩ := Prod.mk.inj hpair
    obtain ⟨hcs, hrest⟩ := ih hread
    exact ⟨by simp [hcs, doubled], hrest⟩
  | case5 d cs hd =>
    simp only [readDoubled, if_true, if_neg hd, Option.some.injEq, Prod.mk.injEq] at h
    obtain ⟨rfl, rfl⟩ := h
    exact ⟨rfl, by simpa using hd⟩
  | case6 c d cs hc ih =>
    simp only [readDoubled, if_neg hc] at h
    obtain ⟨⟨es, r⟩, hread, hpair⟩ := Option.map_eq_some_iff.mp h
    obtain ⟨rfl, rfl⟩ := Prod.mk.inj hpair
    obtain ⟨hcs, hrest⟩ := ih hread
    exact ⟨by simp [hcs, doubled, hc], hrest⟩

/-- A text is read from exactly what begins with the text in quotes, and the rest is what follows
    them. -/
theorem readEnclosed_eq_some_iff :
    readEnclosed quote cs = some (s, rest) ↔
      cs = (enclosed quote s).toList ++ rest ∧ rest.head? ≠ some quote := by
  constructor
  · intro h
    cases cs with
    | nil => simp [readEnclosed] at h
    | cons c cs =>
      by_cases hc : c = quote
      · rw [readEnclosed, if_pos hc] at h
        obtain ⟨⟨ds, r⟩, hread, hpair⟩ := Option.map_eq_some_iff.mp h
        obtain ⟨rfl, rfl⟩ := Prod.mk.inj hpair
        obtain ⟨hcs, hrest⟩ := eq_doubled_of_read hread
        exact ⟨by simp [enclosed, hc, hcs], hrest⟩
      · rw [readEnclosed, if_neg hc] at h
        contradiction
  · rintro ⟨rfl, hrest⟩
    exact readEnclosed_enclosed quote s rest hrest

example : readEnclosed '"' "\"a\"\"b\".c".toList = some ("a\"b", ".c".toList) := by decide +kernel

/-- Quoted texts that are the same together with what follows are the same. -/
theorem enclosed_inj (hrest : rest.head? ≠ some quote) (hrest' : rest'.head? ≠ some quote)
    (h : (enclosed quote s).toList ++ rest = (enclosed quote t).toList ++ rest') :
    s = t ∧ rest = rest' := by
  have hs := readEnclosed_enclosed quote s rest hrest
  rw [h, readEnclosed_enclosed quote t rest' hrest'] at hs
  exact ⟨(Prod.mk.inj (Option.some.inj hs)).1.symm, (Prod.mk.inj (Option.some.inj hs)).2.symm⟩

/-- Columns that are the same together with what follows are the same. -/
theorem qualified_append_inj {t c t' c' : String} (hrest : rest.head? ≠ some '"')
    (hrest' : rest'.head? ≠ some '"')
    (h : (qualified t c).toList ++ rest = (qualified t' c').toList ++ rest') :
    (t = t' ∧ c = c') ∧ rest = rest' := by
  unfold qualified at h
  simp only [String.toList_append, List.append_assoc] at h
  obtain ⟨ht, hdot⟩ := enclosed_inj (by simp) (by simp) h
  obtain ⟨hc, hback⟩ := enclosed_inj hrest hrest' (List.append_cancel_left hdot)
  exact ⟨⟨ht, hc⟩, hback⟩

/-- From a text that begins with a quoted identifier, and goes on with no other double quote, the
    name is read and the rest is left; from other texts nothing is read. The same holds for
    literals with single quotes. So the text of a column says its table and its name. -/
theorem quoting_exact :
    (∀ (s : String) (cs rest : List Char), readEnclosed '"' cs = some (s, rest) ↔
      cs = (quoted s).toList ++ rest ∧ rest.head? ≠ some '"') ∧
    (∀ (s : String) (cs rest : List Char), readEnclosed '\'' cs = some (s, rest) ↔
      cs = (literal s).toList ++ rest ∧ rest.head? ≠ some '\'') ∧
    ∀ table column table' column' : String, qualified table column = qualified table' column' ↔
      table = table' ∧ column = column' := by
  refine ⟨fun _ _ _ => readEnclosed_eq_some_iff, fun _ _ _ => readEnclosed_eq_some_iff, ?_⟩
  intro table column table' column'
  constructor
  · intro h
    have hnil : (qualified table column).toList ++ [] =
        (qualified table' column').toList ++ [] := by
      rw [h]
    exact (qualified_append_inj (by simp) (by simp) hnil).1
  · rintro ⟨rfl, rfl⟩
    rfl

end RowServe.Sql
