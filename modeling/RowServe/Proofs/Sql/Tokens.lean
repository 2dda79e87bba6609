import Mathlib.Data.List.Basic
import RowServe.Proofs.Sql.Quoting
import RowServe.Sql.Bind

/-!
# Statements as tokens

What a statement says where it is read: the quoted names and the placeholders in it. Texts
in quotes and names of types are passed over, so neither a dollar sign in a name nor a quote
in a literal counts. A type is written as it was declared and may hold anything; if no type
has quotes or dollar signs in it, a statement is read in one way only.

Results:

* `Reads.unique`: without quotes in types a text has one reading.
* `Spells.intercalate`: a list of phrases says what the phrases say.
* `spells_placeholder`: a placeholder is read as its position, whatever it is cast to.
-/

namespace RowServe.Sql

/-- What counts in a statement: a quoted name, or the position of a placeholder. -/
inductive Token where
  | name (s : String)
  | place (position : Nat)
  deriving DecidableEq, Repr

/-- A character that starts neither a quoted text nor a placeholder. -/
def isBare (c : Char) : Bool := c ≠ '"' && c ≠ '\'' && c ≠ '$'

/-- What may follow a token: nothing that would make it longer. -/
def Fresh (rest : List Char) : Prop :=
  ∀ c, rest.head? = some c → c ≠ '"' ∧ c ≠ '\'' ∧ c.isDigit = false

/-- A text is read as tokens, with certain names of types passed over. -/
inductive Reads (IsType : String → Prop) : List Char → List Token → Prop
  | done : Reads IsType [] []
  | bare {c : Char} {rest : List Char} {ts : List Token} (hc : isBare c = true)
      (h : Reads IsType rest ts) : Reads IsType (c :: rest) ts
  | name {s : String} {rest : List Char} {ts : List Token} (hrest : rest.head? ≠ some '"')
      (h : Reads IsType rest ts) : Reads IsType ((quoted s).toList ++ rest) (.name s :: ts)
  | text {s : String} {rest : List Char} {ts : List Token} (hrest : rest.head? ≠ some '\'')
      (h : Reads IsType rest ts) : Reads IsType ((literal s).toList ++ rest) ts
  | place {k : Nat} {rest : List Char} {ts : List Token}
      (hrest : ∀ c, rest.head? = some c → c.isDigit = false) (h : Reads IsType rest ts) :
      Reads IsType ('$' :: (k.repr.toList ++ rest)) (.place k :: ts)
  | type {t : String} {rest : List Char} {ts : List Token} (ht : IsType t)
      (h : Reads IsType rest ts) : Reads IsType (':' :: ':' :: (t.toList ++ rest)) ts

/-- The text has no quotes and no dollar signs. -/
def Bare (s : String) : Prop := ∀ c ∈ s.toList, isBare c = true

instance (s : String) : Decidable (Bare s) :=
  List.decidableBAll (fun c => isBare c = true) s.toList

variable {IsType : String → Prop} {s t : String} {cs rest : List Char} {ts us : List Token}

theorem reads_bare (hcs : ∀ c ∈ cs, isBare c = true) (h : Reads IsType rest ts) :
    Reads IsType (cs ++ rest) ts := by
  induction cs with
  | nil => exact h
  | cons c cs ih =>
    exact .bare (hcs c List.mem_cons_self) (ih fun d hd => hcs d (List.mem_cons_of_mem c hd))

/-! ## One reading -/

/-- Names of types without quotes and dollar signs are read like other words. -/
theorem Reads.untyped (hbare : ∀ t, IsType t → Bare t) (h : Reads IsType cs ts) :
    Reads (fun _ => False) cs ts := by
  induction h with
  | done => exact .done
  | bare hc _ ih => exact .bare hc ih
  | name hrest _ ih => exact .name hrest ih
  | text hrest _ ih => exact .text hrest ih
  | place hrest _ ih => exact .place hrest ih
  | type ht _ ih => exact .bare rfl (.bare rfl (reads_bare (hbare _ ht) ih))

theorem quoted_cons (s : String) : ∃ cs, (quoted s).toList = '"' :: cs :=
  ⟨_, by rw [quoted, enclosed, String.toList_ofList]⟩

theorem literal_cons (s : String) : ∃ cs, (literal s).toList = '\'' :: cs :=
  ⟨_, by rw [literal, enclosed, String.toList_ofList]⟩

theorem quoted_no_digit (s : String) (rest : List Char) (c : Char)
    (h : ((quoted s).toList ++ rest).head? = some c) : c.isDigit = false := by
  obtain ⟨cs, hcs⟩ := quoted_cons s
  rw [hcs] at h
  rw [← Option.some.inj h]
  rfl

theorem fresh_place (rest : List Char) : Fresh ('$' :: rest) := by
  intro c hc
  rw [← Option.some.inj hc]
  decide

theorem repr_digits (k : Nat) : ∀ c ∈ k.repr.toList, c.isDigit = true := by
  intro c hc
  rw [Nat.toList_repr] at hc
  exact Nat.isDigit_of_mem_toDigits (by decide) (by decide) hc

theorem takeWhile_repr (k : Nat) (hrest : ∀ c, rest.head? = some c → c.isDigit = false) :
    (k.repr.toList ++ rest).takeWhile Char.isDigit = k.repr.toList := by
  rw [List.takeWhile_append_of_pos (repr_digits k)]
  cases rest with
  | nil => simp
  | cons c rest => simp [hrest c rfl]

/-- Numbers that are the same together with what follows are the same. -/
theorem repr_append_inj {k l : Nat} {rest' : List Char}
    (hrest : ∀ c, rest.head? = some c → c.isDigit = false)
    (hrest' : ∀ c, rest'.head? = some c → c.isDigit = false)
    (h : k.repr.toList ++ rest = l.repr.toList ++ rest') : k = l ∧ rest = rest' := by
  have hdigits := takeWhile_repr k hrest
  rw [h, takeWhile_repr l hrest'] at hdigits
  have hkl : k = l := by
    rw [← Nat.ofDigitChars_toDigits (b := 10) (n := k) (by decide) (by decide),
      ← Nat.toList_repr, ← hdigits, Nat.toList_repr,
      Nat.ofDigitChars_toDigits (by decide) (by decide)]
  subst hkl
  exact ⟨rfl, List.append_cancel_left h⟩

/-- Numbers with the same text are the same. -/
theorem repr_inj {k l : Nat} (h : k.repr = l.repr) : k = l :=
  have hnil : k.repr.toList ++ [] = l.repr.toList ++ [] := by rw [h]
  (repr_append_inj (by simp) (by simp) hnil).1

namespace Reads

/-- Names of types are not looked for. -/
abbrev NoType : String → Prop := fun _ => False

theorem of_bare {c : Char} (hc : isBare c = true) (h : Reads NoType (c :: rest) ts) :
    Reads NoType rest ts := by
  generalize hcs : c :: rest = cs at h
  cases h with
  | done => contradiction
  | bare _ h => exact (List.cons.inj hcs).2 ▸ h
  | @name s _ _ _ _ =>
    obtain ⟨_, hs⟩ := quoted_cons s
    rw [hs] at hcs
    exact absurd ((List.cons.inj hcs).1 ▸ hc) (by decide)
  | @text s _ _ _ _ =>
    obtain ⟨_, hs⟩ := literal_cons s
    rw [hs] at hcs
    exact absurd ((List.cons.inj hcs).1 ▸ hc) (by decide)
  | place _ _ => exact absurd ((List.cons.inj hcs).1 ▸ hc) (by decide)
  | type ht _ => exact ht.elim

theorem of_quoted (hrest : rest.head? ≠ some '"')
    (h : Reads NoType ((quoted s).toList ++ rest) ts) :
    ∃ us, ts = .name s :: us ∧ Reads NoType rest us := by
  generalize hcs : (quoted s).toList ++ rest = cs at h
  obtain ⟨_, hs⟩ := quoted_cons s
  cases h with
  | done => simp [hs] at hcs
  | bare hc _ =>
    rw [hs] at hcs
    exact absurd ((List.cons.inj hcs).1 ▸ hc) (by decide)
  | name hrest' h =>
    obtain ⟨rfl, rfl⟩ := enclosed_inj hrest hrest' hcs
    exact ⟨_, rfl, h⟩
  | @text t _ _ _ _ =>
    obtain ⟨_, ht⟩ := literal_cons t
    rw [hs, ht] at hcs
    exact absurd (List.cons.inj hcs).1 (by decide)
  | place _ _ =>
    rw [hs] at hcs
    exact absurd (List.cons.inj hcs).1 (by decide)
  | type ht _ => exact ht.elim

theorem of_literal (hrest : rest.head? ≠ some '\'')
    (h : Reads NoType ((literal s).toList ++ rest) ts) : Reads NoType rest ts := by
  generalize hcs : (literal s).toList ++ rest = cs at h
  obtain ⟨_, hs⟩ := literal_cons s
  cases h with
  | done => simp [hs] at hcs
  | bare hc _ =>
    rw [hs] at hcs
    exact absurd ((List.cons.inj hcs).1 ▸ hc) (by decide)
  | @name t _ _ _ _ =>
    obtain ⟨_, ht⟩ := quoted_cons t
    rw [hs, ht] at hcs
    exact absurd (List.cons.inj hcs).1 (by decide)
  | text hrest' h => exact (enclosed_inj hrest hrest' hcs).2 ▸ h
  | place _ _ =>
    rw [hs] at hcs
    exact absurd (List.cons.inj hcs).1 (by decide)
  | type ht _ => exact ht.elim

theorem of_place {k : Nat} (hrest : ∀ c, rest.head? = some c → c.isDigit = false)
    (h : Reads NoType ('$' :: (k.repr.toList ++ rest)) ts) :
    ∃ us, ts = .place k :: us ∧ Reads NoType rest us := by
  generalize hcs : '$' :: (k.repr.toList ++ rest) = cs at h
  cases h with
  | done => contradiction
  | bare hc _ => exact absurd ((List.cons.inj hcs).1 ▸ hc) (by decide)
  | @name t _ _ _ _ =>
    obtain ⟨_, ht⟩ := quoted_cons t
    rw [ht] at hcs
    exact absurd (List.cons.inj hcs).1 (by decide)
  | @text t _ _ _ _ =>
    obtain ⟨_, ht⟩ := literal_cons t
    rw [ht] at hcs
    exact absurd (List.cons.inj hcs).1 (by decide)
  | place hrest' h =>
    obtain ⟨rfl, rfl⟩ := repr_append_inj hrest hrest' (List.cons.inj hcs).2
    exact ⟨_, rfl, h⟩
  | type ht _ => exact ht.elim

theorem of_nil (h : Reads NoType [] ts) : ts = [] := by
  generalize hcs : [] = cs at h
  cases h with
  | done => rfl
  | bare _ _ => contradiction
  | @name t _ _ _ _ =>
    obtain ⟨_, ht⟩ := quoted_cons t
    simp [ht] at hcs
  | @text t _ _ _ _ =>
    obtain ⟨_, ht⟩ := literal_cons t
    simp [ht] at hcs
  | place _ _ => contradiction
  | type ht _ => exact ht.elim

/-- If no name of a type has quotes or dollar signs a text has one reading. -/
theorem unique (hbare : ∀ t, IsType t → Bare t) (h : Reads IsType cs ts)
    (h' : Reads IsType cs us) : ts = us := by
  replace h := h.untyped hbare
  replace h' := h'.untyped hbare
  induction h generalizing us with
  | done => exact (of_nil h').symm
  | bare hc _ ih => exact ih (of_bare hc h')
  | name hrest _ ih =>
    obtain ⟨us, rfl, h⟩ := of_quoted hrest h'
    rw [ih h]
  | text hrest _ ih => exact ih (of_literal hrest h')
  | place hrest _ ih =>
    obtain ⟨us, rfl, h⟩ := of_place hrest h'
    rw [ih h]
  | type ht _ _ => exact ht.elim

end Reads

/-! ## Phrases -/

/-- The text says the tokens, whatever comes after it. -/
def Closed (IsType : String → Prop) (s : String) (ts : List Token) : Prop :=
  ∀ rest us, Reads IsType rest us → Reads IsType (s.toList ++ rest) (ts ++ us)

/-- The text says the tokens in front of anything that does not make its last token longer. -/
def Spells (IsType : String → Prop) (s : String) (ts : List Token) : Prop :=
  ∀ rest us, Fresh rest → Reads IsType rest us → Reads IsType (s.toList ++ rest) (ts ++ us)

/-- The text begins with a character that ends what stands before it. -/
def Begins (s : String) : Prop :=
  s.toList.head?.any (fun c => c ≠ '"' && c ≠ '\'' && !c.isDigit) = true

instance (s : String) : Decidable (Begins s) := inferInstanceAs (Decidable (_ = true))

/-- The text has no tokens and ends what stands before it. -/
def Divides (w : String) : Prop := Bare w ∧ Begins w

instance (w : String) : Decidable (Divides w) := inferInstanceAs (Decidable (_ ∧ _))

theorem Begins.append (h : Begins s) (t : String) : Begins (s ++ t) := by
  unfold Begins at h ⊢
  rw [String.toList_append]
  cases hs : s.toList with
  | nil =>
    rw [hs] at h
    contradiction
  | cons c cs =>
    rw [hs] at h
    exact h

theorem Begins.fresh (h : Begins s) (rest : List Char) : Fresh (s.toList ++ rest) := by
  intro c hc
  unfold Begins at h
  cases hs : s.toList with
  | nil =>
    rw [hs] at h
    contradiction
  | cons d ds =>
    rw [hs] at h hc
    obtain rfl : d = c := Option.some.inj hc
    simp only [List.head?_cons, Option.any_some, Bool.and_eq_true, decide_eq_true_eq,
      Bool.not_eq_true'] at h
    exact ⟨h.1.1, h.1.2, h.2⟩

theorem Bare.closed (hw : Bare s) : Closed IsType s [] := fun _ _ h => reads_bare hw h

theorem Closed.spells (h : Closed IsType s ts) : Spells IsType s ts := fun rest us _ => h rest us

theorem Bare.spells (hw : Bare s) : Spells IsType s [] := hw.closed.spells

/-- A text that says tokens is read as these tokens. -/
theorem Spells.reads (h : Spells IsType s ts) : Reads IsType s.toList ts := by
  have := h [] [] (fun c hc => by contradiction) .done
  rwa [List.append_nil, List.append_nil] at this

/-- The text is read as the tokens; with usual names of types there is no other reading. -/
def ReadAs (IsType : String → Prop) (s : String) (ts : List Token) : Prop :=
  Reads IsType s.toList ts ∧
    ((∀ t, IsType t → Bare t) → ∀ us, Reads IsType s.toList us → us = ts)

theorem Spells.readAs (h : Spells IsType s ts) : ReadAs IsType s ts :=
  ⟨h.reads, fun hbare _ hreads => hreads.unique hbare h.reads⟩

theorem Closed.spells_append (hs : Closed IsType s ts) (ht : Spells IsType t us) :
    Spells IsType (s ++ t) (ts ++ us) := by
  intro rest vs hrest h
  rw [String.toList_append, List.append_assoc, List.append_assoc]
  exact hs _ _ (ht rest vs hrest h)

theorem Closed.append (hs : Closed IsType s ts) (ht : Closed IsType t us) :
    Closed IsType (s ++ t) (ts ++ us) := by
  intro rest vs h
  rw [String.toList_append, List.append_assoc, List.append_assoc]
  exact hs _ _ (ht rest vs h)

/-- What follows a phrase has to end it. -/
theorem Spells.spells_append (hs : Spells IsType s ts) (ht : Spells IsType t us)
    (hbegin : Begins t) : Spells IsType (s ++ t) (ts ++ us) := by
  intro rest vs hrest h
  rw [String.toList_append, List.append_assoc, List.append_assoc]
  exact hs _ _ (hbegin.fresh rest) (ht rest vs hrest h)

theorem Spells.append (hs : Spells IsType s ts) (ht : Closed IsType t us) (hbegin : Begins t) :
    Closed IsType (s ++ t) (ts ++ us) := by
  intro rest vs h
  rw [String.toList_append, List.append_assoc, List.append_assoc]
  exact hs _ _ (hbegin.fresh rest) (ht rest vs h)

/-- A dividing word ends a phrase, so that anything may follow. -/
theorem Spells.word (h : Spells IsType s ts) {w : String} (hw : Divides w) :
    Closed IsType (s ++ w) ts := by
  simpa using h.append hw.1.closed hw.2

theorem Closed.word (h : Closed IsType s ts) {w : String} (hw : Bare w) :
    Closed IsType (s ++ w) ts := by
  simpa using h.append (Bare.closed hw)

/-- Phrases with dividing words between them say what the phrases say. -/
theorem Spells.intercalate {α : Type} {w : String} (hw : Divides w) {f : α → String}
    {g : α → List Token} {l : List α} (h : ∀ a ∈ l, Spells IsType (f a) (g a)) :
    Spells IsType (w.intercalate (l.map f)) (l.flatMap g) := by
  induction l with
  | nil => exact Bare.spells (s := "") (by decide)
  | cons a l ih =>
    have ha := h a List.mem_cons_self
    have hl := ih fun b hb => h b (List.mem_cons_of_mem a hb)
    cases l with
    | nil => simpa using ha
    | cons b l =>
      rw [List.map_cons, List.map_cons, String.intercalate_cons_cons, List.flatMap_cons]
      exact (ha.word hw).spells_append hl

/-! ## Names, literals and placeholders -/

theorem Bare.append (hs : Bare s) (ht : Bare t) : Bare (s ++ t) := by
  intro c hc
  rw [String.toList_append, List.mem_append] at hc
  exact hc.elim (hs c) (ht c)

theorem bare_repr (n : Nat) : Bare n.repr := by
  intro c hc
  have hdigit := repr_digits n c hc
  have hne : ∀ d : Char, d.isDigit = false → c ≠ d := by
    rintro d hd rfl
    rw [hd] at hdigit
    contradiction
  simp [isBare, hne '"' (by decide), hne '\'' (by decide), hne '$' (by decide)]

theorem spells_quoted (s : String) : Spells IsType (quoted s) [.name s] := fun _ _ hrest h =>
  .name (fun hq => (hrest _ hq).1 rfl) h

theorem spells_literal (s : String) : Spells IsType (literal s) [] := fun _ _ hrest h =>
  .text (fun hq => (hrest _ hq).2.1 rfl) h

/-- A name between two texts without tokens. -/
theorem closed_quoted {before after : String} (hbefore : Bare before) (hafter : Divides after)
    (s : String) : Closed IsType (before ++ quoted s ++ after) [.name s] :=
  (hbefore.closed.spells_append (spells_quoted s)).word hafter

/-- A literal between two texts without tokens. -/
theorem closed_literal {before after : String} (hbefore : Bare before) (hafter : Divides after)
    (s : String) : Closed IsType (before ++ literal s ++ after) [] :=
  (hbefore.closed.spells_append (spells_literal s)).word hafter

theorem spells_qualified (table column : String) :
    Spells IsType (qualified table column) [.name table, .name column] :=
  ((spells_quoted table).word (by decide)).spells_append (spells_quoted column)

/-- A placeholder is read as its position; what it is cast to has to be the name of a type. -/
theorem spells_placeholder {p : Placeholder} (hcast : ∀ t, p.cast = some t → IsType t) :
    Spells IsType p.render [.place p.position] := by
  intro rest us hrest h
  unfold Placeholder.render
  cases hp : p.cast with
  | none =>
    have hdigit : ∀ c, rest.head? = some c → c.isDigit = false := fun c hc => (hrest c hc).2.2
    simpa [String.toList_append] using Reads.place (k := p.position) hdigit h
  | some t =>
    have htype : Reads IsType (':' :: ':' :: (t.toList ++ rest)) us := .type (hcast t hp) h
    have hcolon : ∀ c, (':' :: ':' :: (t.toList ++ rest)).head? = some c → c.isDigit = false :=
      fun c hc => Option.some.inj hc ▸ by decide
    simpa [String.toList_append] using Reads.place (k := p.position) hcolon htype

end RowServe.Sql
