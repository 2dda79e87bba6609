import RowServe.Contract.Pagination
import RowServe.Proofs.Sql.Tokens
import RowServe.Sql.Condition

/-!
# Sort keys

What a clause orders rows by: expressions, each with a direction behind it or not. A direction
holds for the expression in front of it only, and an expression without one is ascending.

Results:

* `orderClause_inj`: a clause is the text of one list of sort keys.
* `sortList_keysOf`: a list of expressions with one direction behind it, as sort keys.
* `sortList_ne_direction`: with no expression in front of it a direction is no list of keys.
* `directions_keysOf`: when all of the keys go in the direction behind them.
-/

namespace RowServe.Sql

/-- An expression that rows are ordered by, with the direction behind it if there is one. -/
structure SortKey where
  operand : Operand
  keyword : Option OrderDir
  deriving DecidableEq, Repr

namespace SortKey

/-- The key in SQL. -/
def render (k : SortKey) : String :=
  k.operand.render ++ k.keyword.elim "" fun d => " " ++ d.sql

/-- The direction of the key. -/
def direction (k : SortKey) : OrderDir := k.keyword.getD .asc

end SortKey

/-- The keys of a clause. -/
def sortList (keys : List SortKey) : String := ", ".intercalate (keys.map SortKey.render)

/-- The clause of some keys. -/
def orderClause (keys : List SortKey) : String := "ORDER BY " ++ sortList keys

/-! ## One reading -/

/-- What may follow an expression in a list: nothing, a direction, or the next one. -/
def Parted (rest : List Char) : Prop := ∀ c, rest.head? = some c → c = ' ' ∨ c = ','

theorem Parted.head_ne {rest : List Char} (h : Parted rest) {c : Char} (hspace : c ≠ ' ')
    (hcomma : c ≠ ',') : rest.head? ≠ some c := fun hc =>
  (h c hc).elim hspace hcomma

/-- The key of a document behind its column. -/
def arrow (k : String) : String := "->" ++ literal k

theorem head_arrow (k : String) (rest : List Char) :
    ((arrow k).toList ++ rest).head? = some '-' := by
  unfold arrow
  rw [String.toList_append]
  rfl

theorem arrow_append_inj {k k' : String} {rest rest' : List Char} (hrest : Parted rest)
    (hrest' : Parted rest') (h : (arrow k).toList ++ rest = (arrow k').toList ++ rest') :
    k = k' ∧ rest = rest' := by
  unfold arrow at h
  rw [String.toList_append, String.toList_append, List.append_assoc, List.append_assoc] at h
  exact enclosed_inj (hrest.head_ne (by decide) (by decide))
    (hrest'.head_ne (by decide) (by decide)) (List.append_cancel_left h)

/-- Expressions that are the same together with what follows are the same. -/
theorem operand_append_inj {x y : Operand} {rest rest' : List Char} (hrest : Parted rest)
    (hrest' : Parted rest') (h : x.render.toList ++ rest = y.render.toList ++ rest') :
    x = y ∧ rest = rest' := by
  have hquote {rest : List Char} (h : Parted rest) : rest.head? ≠ some '"' :=
    h.head_ne (by decide) (by decide)
  have harrow (k : String) (rest : List Char) : ((arrow k).toList ++ rest).head? ≠ some '"' := by
    rw [head_arrow]
    decide
  have hkey (t c k : String) (rest : List Char) : (Operand.key t c k).render.toList ++ rest =
      (qualified t c).toList ++ ((arrow k).toList ++ rest) := by
    unfold Operand.render arrow
    simp only [String.toList_append, List.append_assoc]
  have hapart {k : String} {rest rest' : List Char} (h : Parted rest) :
      rest ≠ (arrow k).toList ++ rest' := by
    rintro rfl
    exact h.head_ne (by decide) (by decide) (head_arrow k rest')
  cases x with
  | column t c =>
    cases y with
    | column t' c' =>
      obtain ⟨⟨rfl, rfl⟩, hback⟩ := qualified_append_inj (hquote hrest) (hquote hrest') h
      exact ⟨rfl, hback⟩
    | key t' c' k' =>
      rw [hkey] at h
      exact absurd (qualified_append_inj (hquote hrest) (harrow k' rest') h).2 (hapart hrest)
  | key t c k =>
    rw [hkey] at h
    cases y with
    | column t' c' =>
      exact absurd (qualified_append_inj (harrow k rest) (hquote hrest') h).2.symm (hapart hrest')
    | key t' c' k' =>
      rw [hkey] at h
      obtain ⟨⟨rfl, rfl⟩, hback⟩ := qualified_append_inj (harrow k rest) (harrow k' rest') h
      obtain ⟨rfl, hnext⟩ := arrow_append_inj hrest hrest' hback
      exact ⟨rfl, hnext⟩

/-- What follows the first key of a list. -/
def sortTail : List SortKey → String
  | [] => ""
  | k :: keys => ", " ++ sortList (k :: keys)

theorem sortList_cons (k : SortKey) (keys : List SortKey) :
    sortList (k :: keys) = k.render ++ sortTail keys := by
  cases keys with
  | nil => simp [sortList, sortTail]
  | cons l keys =>
    unfold sortList sortTail
    rw [List.map_cons, List.map_cons, String.intercalate_cons_cons, String.append_assoc]
    rfl

theorem toList_sortTail (keys : List SortKey) : keys = [] ∨
    (sortTail keys).toList = ',' :: ' ' :: (sortList keys).toList := by
  cases keys with
  | nil => exact .inl rfl
  | cons k keys =>
    refine .inr ?_
    unfold sortTail
    rw [String.toList_append]
    rfl

theorem sortList_of_tail {keys others : List SortKey} (h : sortTail keys = sortTail others) :
    sortList keys = sortList others := by
  rcases toList_sortTail keys with rfl | hkeys
  · rcases toList_sortTail others with rfl | hothers
    · rfl
    · rw [← h] at hothers
      contradiction
  · rcases toList_sortTail others with rfl | hothers
    · rw [h] at hkeys
      contradiction
    · rw [h, hothers] at hkeys
      exact (String.ext (List.cons.inj (List.cons.inj hkeys).2).2).symm

theorem sortTail_head {keys : List SortKey} {c : Char}
    (h : (sortTail keys).toList.head? = some c) : c = ',' := by
  rcases toList_sortTail keys with rfl | hkeys
  · contradiction
  · rw [hkeys] at h
    exact (Option.some.inj h).symm

/-- The direction behind an expression. -/
def wordOf (keyword : Option OrderDir) : String := keyword.elim "" fun d => " " ++ d.sql

theorem wordOf_some (d : OrderDir) : ∃ c cs, (wordOf (some d)).toList = ' ' :: c :: cs ∧
    (c = 'A' ↔ d = .asc) := by
  cases d with
  | asc => exact ⟨'A', _, rfl, by simp⟩
  | desc => exact ⟨'D', _, rfl, by simp⟩

theorem word_parted (keyword : Option OrderDir) (keys : List SortKey) :
    Parted ((wordOf keyword).toList ++ (sortTail keys).toList) := by
  intro c hc
  cases keyword with
  | none => exact .inr (sortTail_head hc)
  | some d =>
    obtain ⟨_, _, hword, _⟩ := wordOf_some d
    rw [hword] at hc
    exact .inl (Option.some.inj hc).symm

/-- Directions that are the same together with the keys behind them are the same. -/
theorem word_append_inj {keyword other : Option OrderDir} {keys others : List SortKey}
    (h : (wordOf keyword).toList ++ (sortTail keys).toList =
      (wordOf other).toList ++ (sortTail others).toList) :
    keyword = other ∧ sortTail keys = sortTail others := by
  have hapart {d : OrderDir} {keys others : List SortKey} :
      (sortTail keys).toList ≠ (wordOf (some d)).toList ++ (sortTail others).toList := by
    intro heq
    obtain ⟨_, _, hword, _⟩ := wordOf_some d
    rw [hword] at heq
    have hhead := congrArg List.head? heq
    exact absurd (sortTail_head hhead) (by decide)
  cases keyword with
  | none =>
    cases other with
    | none => exact ⟨rfl, String.ext h⟩
    | some d => exact (hapart h).elim
  | some d =>
    cases other with
    | none => exact (hapart h.symm).elim
    | some d' =>
      obtain ⟨c, cs, hword, hc⟩ := wordOf_some d
      obtain ⟨c', cs', hword', hc'⟩ := wordOf_some d'
      have hsame : d = d' := by
        rw [hword, hword'] at h
        have hletter : c = c' := (List.cons.inj (List.cons.inj h).2).1
        rw [hletter, hc'] at hc
        cases d <;> cases d' <;> simp_all
      subst hsame
      exact ⟨rfl, String.ext (List.append_cancel_left h)⟩

/-- A key is read up to the comma behind it. -/
theorem key_append_inj {k l : SortKey} {keys others : List SortKey}
    (h : k.render ++ sortTail keys = l.render ++ sortTail others) :
    k = l ∧ sortTail keys = sortTail others := by
  have hchars (k : SortKey) (keys : List SortKey) : (k.render ++ sortTail keys).toList =
      k.operand.render.toList ++ ((wordOf k.keyword).toList ++ (sortTail keys).toList) := by
    unfold SortKey.render wordOf
    simp only [String.toList_append, List.append_assoc]
  have hlist := congrArg String.toList h
  rw [hchars, hchars] at hlist
  obtain ⟨hoperand, hwords⟩ := operand_append_inj (word_parted _ _) (word_parted _ _) hlist
  obtain ⟨hkeyword, htail⟩ := word_append_inj hwords
  cases k
  cases l
  exact ⟨congrArg₂ SortKey.mk hoperand hkeyword, htail⟩

theorem operand_head (x : Operand) : ∃ cs, x.render.toList = '"' :: cs := by
  have hqualified (t c : String) : ∃ cs, (qualified t c).toList = '"' :: cs := by
    obtain ⟨cs, hcs⟩ := quoted_cons t
    unfold qualified
    rw [String.toList_append, String.toList_append, hcs]
    exact ⟨_, rfl⟩
  cases x with
  | column t c => exact hqualified t c
  | key t c k =>
    obtain ⟨cs, hcs⟩ := hqualified t c
    unfold Operand.render
    rw [String.toList_append, String.toList_append, hcs]
    exact ⟨_, rfl⟩

theorem sortList_ne_empty (k : SortKey) (keys : List SortKey) : sortList (k :: keys) ≠ "" := by
  intro h
  obtain ⟨cs, hcs⟩ := operand_head k.operand
  rw [sortList_cons, SortKey.render] at h
  have hlist := congrArg String.toList h
  rw [String.toList_append, String.toList_append, hcs] at hlist
  contradiction

theorem sortList_inj {keys others : List SortKey} (h : sortList keys = sortList others) :
    keys = others := by
  induction keys generalizing others with
  | nil =>
    cases others with
    | nil => rfl
    | cons l others => exact absurd h.symm (sortList_ne_empty l others)
  | cons k keys ih =>
    cases others with
    | nil => exact absurd h (sortList_ne_empty k keys)
    | cons l others =>
      rw [sortList_cons, sortList_cons] at h
      obtain ⟨rfl, htail⟩ := key_append_inj h
      rw [ih (sortList_of_tail htail)]

/-- A clause is the text of one list of keys. -/
theorem orderClause_inj {keys others : List SortKey} (h : orderClause keys = orderClause others) :
    keys = others := sortList_inj ((String.append_right_inj _).mp h)

/-! ## One direction behind a list -/

/-- The keys of a list of expressions with one direction behind it: only the last has it. -/
def keysOf (direction : OrderDir) : List Operand → List SortKey
  | [] => []
  | [x] => [⟨x, some direction⟩]
  | x :: y :: operands => ⟨x, none⟩ :: keysOf direction (y :: operands)

/-- Expressions with commas between them and a direction behind them are these keys. -/
theorem sortList_keysOf (direction : OrderDir) {operands : List Operand} (h : operands ≠ []) :
    sortList (keysOf direction operands) =
      ", ".intercalate (operands.map Operand.render) ++ " " ++ direction.sql := by
  induction operands with
  | nil => contradiction
  | cons x operands ih =>
    cases operands with
    | nil => simp [keysOf, sortList, SortKey.render, String.append_assoc]
    | cons y operands =>
      have hne : keysOf direction (y :: operands) ≠ [] := by
        cases operands <;> simp [keysOf]
      obtain ⟨k, keys, hkeys⟩ := List.exists_cons_of_ne_nil hne
      have ih := ih (List.cons_ne_nil _ _)
      rw [hkeys] at ih
      rw [keysOf, hkeys, sortList_cons, sortTail, ih, List.map_cons (l := y :: operands),
        List.map_cons, String.intercalate_cons_cons]
      simp [SortKey.render, String.append_assoc]

/-- A direction with no expression in front of it is not the list of any keys. -/
theorem sortList_ne_direction (direction : OrderDir) (keys : List SortKey) :
    sortList keys ≠ " " ++ direction.sql := by
  intro h
  cases keys with
  | nil => cases direction <;> exact absurd h (by decide)
  | cons k keys =>
    obtain ⟨cs, hcs⟩ := operand_head k.operand
    rw [sortList_cons, SortKey.render] at h
    have hlist := congrArg String.toList h
    rw [String.toList_append, String.toList_append, hcs, String.toList_append] at hlist
    exact absurd (List.cons.inj hlist).1 (by decide)

theorem operands_keysOf (direction : OrderDir) (operands : List Operand) :
    (keysOf direction operands).map SortKey.operand = operands := by
  induction operands with
  | nil => rfl
  | cons x operands ih =>
    cases operands with
    | nil => rfl
    | cons y operands => rw [keysOf, List.map_cons, ih]

/-- All of the keys go in the direction behind them if that is the usual one, or if there is
    only one key. -/
theorem directions_keysOf (direction : OrderDir) {operands : List Operand} (h : operands ≠ []) :
    (∀ k ∈ keysOf direction operands, k.direction = direction) ↔
      direction = .asc ∨ operands.length = 1 := by
  induction operands with
  | nil => contradiction
  | cons x operands ih =>
    cases operands with
    | nil => simp [keysOf, SortKey.direction]
    | cons y operands =>
      have ih := ih (List.cons_ne_nil _ _)
      rw [keysOf, List.forall_mem_cons, ih]
      constructor
      · exact fun ⟨hfirst, _⟩ => .inl hfirst.symm
      · rintro (hasc | hone)
        · exact ⟨hasc.symm, .inl hasc⟩
        · simp at hone

end RowServe.Sql
