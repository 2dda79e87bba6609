import Mathlib.Data.List.Forall2
import Mathlib.Data.List.Induction
import RowServe.Declaration.SqlType
import RowServe.Proofs.Text.LowerCase

/-!
# Names of types

How PostgreSQL reads the name of a type: words, of which those within double quotes are taken as
they are and the others in lower case, then a modifier in parentheses if there is one, and further
words behind it. The cast of a declared type is made by cutting, trimming and lower-casing its
text, and here is what each of these does to the words.

Results:

* `wordsFrom_cut`: up to the first parenthesis there are the same words, unless a quoted name is
  cut.
* `wordsFrom_trim`: trimming leaves the words alone, unless a word begins or ends with a blank.
* `wordsFrom_lower`: every word is lower-cased for itself.
-/

namespace RowServe

open Text (Lowers avoids inRanges isBlank)

/-! ## Reading -/

/-- A word of the name of a type, as it is written: by itself, or within double quotes. -/
inductive TypeWord where
  | plain (cs : List Char)
  | quoted (cs : List Char)
  deriving DecidableEq

/-- The characters that stand between words: those that SQL takes for white space. -/
def spaceRanges : List (Nat × Nat) := [(9, 13), (32, 32)]

/-- Does the character stand between words? -/
def isSpace (c : Char) : Bool := inRanges spaceRanges c

/-- The place within the name of a type, with the word under way. -/
inductive TypePlace where
  | outside (word : List Char)
  | quoted (name : List Char)

/-- The word that has been under way outside of quotes, if there is one. -/
def plainWord (w : List Char) : List TypeWord := if w = [] then [] else [.plain w]

/-- What is read has the words in front. -/
def withWords (ws : List TypeWord) (r : List TypeWord × List Char) : List TypeWord × List Char :=
  (ws ++ r.1, r.2)

/-- The words up to the first parenthesis that is not quoted, and what stands from there on. A
    quote has to be closed. -/
def wordsFrom : TypePlace → List Char → Option (List TypeWord × List Char)
  | .outside w, [] => some (plainWord w, [])
  | .quoted _, [] => none
  | .outside w, c :: cs =>
    if c = '(' then some (plainWord w, c :: cs)
    else if c = '"' then (wordsFrom (.quoted []) cs).map (withWords (plainWord w))
    else if isSpace c then (wordsFrom (.outside []) cs).map (withWords (plainWord w))
    else wordsFrom (.outside (w ++ [c])) cs
  | .quoted w, c :: cs =>
    if c = '"' then (wordsFrom (.outside []) cs).map (withWords [.quoted w])
    else wordsFrom (.quoted (w ++ [c])) cs

/-- The name of a type: its words, the modifier in parentheses, and the words behind it. -/
structure TypePhrase where
  words : List TypeWord
  modifier : Option (List Char)
  behind : List TypeWord
  deriving DecidableEq

/-- The text as the name of a type. -/
def TypePhrase.read? (text : String) : Option TypePhrase := do
  let (words, rest) ← wordsFrom (.outside []) text.toList
  if words = [] then none
  else
    match rest with
    | [] => some ⟨words, none, []⟩
    | _ :: inner =>
      match inner.dropWhile (· ≠ ')') with
      | [] => none
      | _ :: rest =>
        let (behind, more) ← wordsFrom (.outside []) rest
        if more = [] then some ⟨words, some (inner.takeWhile (· ≠ ')')), behind⟩ else none

/-! ## Steps of reading -/

/-- The characters that end a word: spaces, the double quote and the opening parenthesis. -/
def markRanges : List (Nat × Nat) := [(9, 13), (32, 32), (0x22, 0x22), (0x28, 0x28)]

/-- Does the character end a word? -/
def isMark (c : Char) : Bool := inRanges markRanges c

theorem mark_cases (c : Char) : c = '(' ∨ c = '"' ∨ isSpace c = true ∨ isMark c = false := by
  by_cases hopen : c = '('
  · exact .inl hopen
  · by_cases hquote : c = '"'
    · exact .inr (.inl hquote)
    · right; right
      rw [← Char.toNat_inj] at hopen hquote
      have hopen' : c.toNat ≠ 40 := hopen
      have hquote' : c.toNat ≠ 34 := hquote
      simp only [isSpace, isMark, inRanges, spaceRanges, markRanges, List.any_cons, List.any_nil,
        Bool.or_eq_true, Bool.and_eq_true, decide_eq_true_eq, Bool.or_eq_false_iff,
        Bool.and_eq_false_iff, decide_eq_false_iff_not, Bool.false_eq_true, or_false, and_true]
      omega

theorem not_mark {c : Char} (h : isMark c = false) : c ≠ '(' ∧ c ≠ '"' ∧ isSpace c = false := by
  refine ⟨by rintro rfl; revert h; decide, by rintro rfl; revert h; decide, ?_⟩
  simp only [isSpace, isMark, inRanges, spaceRanges, markRanges, List.any_cons, List.any_nil,
    Bool.or_eq_false_iff] at h ⊢
  exact ⟨h.1, h.2.1, trivial⟩

theorem isMark_of_isSpace {c : Char} (h : isSpace c = true) : isMark c = true := by
  by_contra hno
  rw [(not_mark (by simpa using hno)).2.2] at h
  contradiction

theorem not_space {c : Char} (h : isSpace c = true) : c ≠ '(' ∧ c ≠ '"' :=
  ⟨by rintro rfl; revert h; decide, by rintro rfl; revert h; decide⟩

section
variable (w cs : List Char) {c : Char}

@[simp] theorem wordsFrom_open :
    wordsFrom (.outside w) ('(' :: cs) = some (plainWord w, '(' :: cs) := by
  simp [wordsFrom]

@[simp] theorem wordsFrom_quote : wordsFrom (.outside w) ('"' :: cs) =
    (wordsFrom (.quoted []) cs).map (withWords (plainWord w)) := by
  simp [wordsFrom]

theorem wordsFrom_space (h : isSpace c = true) : wordsFrom (.outside w) (c :: cs) =
    (wordsFrom (.outside []) cs).map (withWords (plainWord w)) := by
  have hne := not_space h
  simp [wordsFrom, hne, h]

theorem wordsFrom_letter (h : isMark c = false) :
    wordsFrom (.outside w) (c :: cs) = wordsFrom (.outside (w ++ [c])) cs := by
  have hne := not_mark h
  simp [wordsFrom, hne]

@[simp] theorem wordsFrom_close : wordsFrom (.quoted w) ('"' :: cs) =
    (wordsFrom (.outside []) cs).map (withWords [.quoted w]) := by
  simp [wordsFrom]

theorem wordsFrom_inner (h : c ≠ '"') :
    wordsFrom (.quoted w) (c :: cs) = wordsFrom (.quoted (w ++ [c])) cs := by
  simp [wordsFrom, h]

end

/-! ## Cutting at the first parenthesis -/

/-- A name that is under way within quotes is the beginning of a quoted word. -/
theorem quoted_first {w cs rest : List Char} {ws : List TypeWord}
    (h : wordsFrom (.quoted w) cs = some (ws, rest)) :
    ∃ q later, ws = .quoted (w ++ q) :: later := by
  induction cs generalizing w with
  | nil => contradiction
  | cons c cs ih =>
    by_cases hquote : c = '"'
    · subst hquote
      rw [wordsFrom_close, Option.map_eq_some_iff] at h
      obtain ⟨r, _, hr⟩ := h
      obtain ⟨rfl, _⟩ := Prod.mk.inj hr
      exact ⟨[], r.1, by simp⟩
    · rw [wordsFrom_inner w cs hquote] at h
      obtain ⟨q, later, rfl⟩ := ih h
      exact ⟨c :: q, later, by simp⟩

/-- There is no parenthesis within the quotes of the word. -/
def TypeWord.Uncut : TypeWord → Prop
  | .plain _ => True
  | .quoted cs => '(' ∉ cs

theorem uncut_plainWord (w : List Char) : ∀ x ∈ plainWord w, x.Uncut := by
  unfold plainWord
  split_ifs with hempty
  · exact List.forall_mem_nil _
  · exact List.forall_mem_singleton.mpr trivial

/-- What is read up to the first parenthesis, given the words of the whole text: the same words, or
    nothing if the parenthesis stands within a quoted name, for then a quote is not closed. -/
def CutWords (ws : List TypeWord) (part : Option (List TypeWord × List Char)) : Prop :=
  (part = some (ws, []) ∧ ∀ w ∈ ws, w.Uncut) ∨ (part = none ∧ ∃ w ∈ ws, ¬ w.Uncut)

theorem CutWords.withWords {us ws : List TypeWord} {part : Option (List TypeWord × List Char)}
    (hus : ∀ w ∈ us, w.Uncut) (h : CutWords ws part) :
    CutWords (us ++ ws) (part.map (withWords us)) := by
  rcases h with ⟨rfl, hws⟩ | ⟨rfl, w, hw, hopen⟩
  · exact .inl ⟨rfl, List.forall_mem_append.mpr ⟨hus, hws⟩⟩
  · exact .inr ⟨rfl, w, List.mem_append_right us hw, hopen⟩

theorem wordsFrom_cut {p : TypePlace} {cs rest : List Char} {ws : List TypeWord}
    (hp : ∀ w, p = .quoted w → '(' ∉ w) (h : wordsFrom p cs = some (ws, rest)) :
    CutWords ws (wordsFrom p (cs.takeWhile (· ≠ '('))) := by
  have hempty (w x : List Char) (hx : TypePlace.outside w = .quoted x) : '(' ∉ x := by
    contradiction
  induction cs generalizing p ws with
  | nil =>
    cases p with
    | quoted w => contradiction
    | outside w =>
      obtain ⟨rfl, _⟩ := Prod.mk.inj (Option.some.inj h)
      exact .inl ⟨rfl, uncut_plainWord w⟩
  | cons c cs ih =>
    cases p with
    | outside w =>
      rcases mark_cases c with rfl | rfl | hspace | hletter
      · rw [wordsFrom_open] at h
        obtain ⟨rfl, _⟩ := Prod.mk.inj (Option.some.inj h)
        exact .inl ⟨by simp [wordsFrom], uncut_plainWord w⟩
      · rw [wordsFrom_quote, Option.map_eq_some_iff] at h
        obtain ⟨r, hr, hws⟩ := h
        obtain ⟨rfl, rfl⟩ := Prod.mk.inj hws
        rw [List.takeWhile_cons_of_pos (by decide), wordsFrom_quote]
        refine (ih (fun x hx => ?_) hr).withWords (uncut_plainWord w)
        rw [← TypePlace.quoted.inj hx]
        exact List.not_mem_nil
      · rw [wordsFrom_space w cs hspace, Option.map_eq_some_iff] at h
        obtain ⟨r, hr, hws⟩ := h
        obtain ⟨rfl, rfl⟩ := Prod.mk.inj hws
        rw [List.takeWhile_cons_of_pos (by simpa using (not_space hspace).1),
          wordsFrom_space w _ hspace]
        exact (ih (hempty []) hr).withWords (uncut_plainWord w)
      · rw [wordsFrom_letter w cs hletter] at h
        rw [List.takeWhile_cons_of_pos (by simpa using (not_mark hletter).1),
          wordsFrom_letter w _ hletter]
        exact ih (hempty (w ++ [c])) h
    | quoted w =>
      by_cases hquote : c = '"'
      · subst hquote
        rw [wordsFrom_close, Option.map_eq_some_iff] at h
        obtain ⟨r, hr, hws⟩ := h
        obtain ⟨rfl, rfl⟩ := Prod.mk.inj hws
        rw [List.takeWhile_cons_of_pos (by decide), wordsFrom_close]
        exact (ih (hempty []) hr).withWords (List.forall_mem_singleton.mpr (hp w rfl))
      · rw [wordsFrom_inner w cs hquote] at h
        by_cases hopen : c = '('
        · subst hopen
          obtain ⟨q, later, rfl⟩ := quoted_first h
          exact .inr ⟨by simp [wordsFrom], _, List.mem_cons_self, by simp [TypeWord.Uncut]⟩
        · rw [List.takeWhile_cons_of_pos (by simpa using hopen), wordsFrom_inner w _ hquote]
          refine ih (fun x hx => ?_) h
          rw [← TypePlace.quoted.inj hx]
          simpa [hp w rfl] using Ne.symm hopen

/-! ## Trimming -/

/-- The word begins with a blank: one that SQL does not take for white space. -/
def TypeWord.startsBlank : TypeWord → Bool
  | .plain cs => cs.head?.any isBlank
  | .quoted _ => false

/-- The word ends with a blank. -/
def TypeWord.endsBlank : TypeWord → Bool
  | .plain cs => cs.getLast?.any isBlank
  | .quoted _ => false

/-- The first word begins with a blank. -/
def StartsBlank (ws : List TypeWord) : Prop := ws.head?.any TypeWord.startsBlank = true

/-- The last word ends with a blank. -/
def EndsBlank (ws : List TypeWord) : Prop := ws.getLast?.any TypeWord.endsBlank = true

/-- What is left of words behind a text has been trimmed: no more words, and the same ones unless
    what has been taken off belonged to a word. -/
def Trimmed (ragged : List TypeWord → Prop) (part whole : List TypeWord × List Char) : Prop :=
  part.1.length ≤ whole.1.length ∧ (part.1 = whole.1 ∨ ragged whole.1)

theorem Trimmed.refl {ragged : List TypeWord → Prop} (r : List TypeWord × List Char) :
    Trimmed ragged r r := ⟨Nat.le_refl _, .inl rfl⟩

theorem Trimmed.trans {ragged : List TypeWord → Prop} {x y z : Option (List TypeWord × List Char)}
    (hxy : Option.Rel (Trimmed ragged) x y) (hyz : Option.Rel (Trimmed ragged) y z) :
    Option.Rel (Trimmed ragged) x z := by
  cases hxy with
  | none => exact hyz
  | some hab =>
    cases hyz with
    | some hbc =>
      refine .some ⟨Nat.le_trans hab.1 hbc.1, ?_⟩
      rcases hbc.2 with hsame | hragged
      · exact hsame ▸ hab.2
      · exact .inr hragged

theorem Trimmed.mono {R S : List TypeWord → Prop} (hRS : ∀ ws, R ws → S ws)
    {x y : Option (List TypeWord × List Char)} (h : Option.Rel (Trimmed R) x y) :
    Option.Rel (Trimmed S) x y := by
  cases h with
  | none => exact .none
  | some hab => exact .some ⟨hab.1, hab.2.imp_right (hRS _)⟩

theorem not_mark_of_isBlank {c : Char} (h : isBlank c = true) : c ≠ '(' ∧ c ≠ '"' :=
  ⟨by rintro rfl; revert h; decide, by rintro rfl; revert h; decide⟩

theorem isBlank_of_isSpace {c : Char} (h : isSpace c = true) : isBlank c = true := by
  simp only [isSpace, isBlank, inRanges, spaceRanges, Text.blankRanges, List.any_cons,
    List.any_nil, Bool.or_eq_true, Bool.and_eq_true, decide_eq_true_eq, Bool.false_eq_true] at h ⊢
  exact h.elim .inl fun h => .inr (h.elim .inl False.elim)

/-- The first word begins with the characters, and there are no fewer words. -/
def Joined (w : List Char) (part whole : List TypeWord × List Char) : Prop :=
  part.1.length ≤ whole.1.length ∧ ∃ q later, whole.1 = .plain (w ++ q) :: later

theorem plainWord_append {w : List Char} (hw : w ≠ []) (x : List Char) :
    plainWord (w ++ x) = [.plain (w ++ x)] := if_neg (by simp [hw])

theorem plainWord_length (w : List Char) : (plainWord w).length ≤ 1 := by
  unfold plainWord
  split_ifs <;> simp

/-- The word under way has ended; behind it there is the same. -/
theorem joined_map {w : List Char} (hw : w ≠ []) (x : List Char)
    (o : Option (List TypeWord × List Char)) :
    Option.Rel (Joined w) (o.map (withWords (plainWord x)))
      (o.map (withWords (plainWord (w ++ x)))) := by
  cases o with
  | none => exact .none
  | some r =>
    have hshort := plainWord_length x
    refine .some ⟨?_, x, r.1, by simp [withWords, plainWord_append hw]⟩
    simp only [withWords, plainWord_append hw, List.length_append, List.length_singleton]
    omega

/-- Words read with characters under way, beside those read without them. -/
theorem wordsFrom_joined {w : List Char} (hw : w ≠ []) (x : List Char) {v : List Char}
    (hv : '(' ∉ v) :
    Option.Rel (Joined w) (wordsFrom (.outside x) v) (wordsFrom (.outside (w ++ x)) v) := by
  induction v generalizing x with
  | nil => simpa [wordsFrom, withWords] using joined_map hw x (some ([], []))
  | cons c v ih =>
    have hrest : '(' ∉ v := fun h => hv (List.mem_cons_of_mem c h)
    rcases mark_cases c with rfl | rfl | hspace | hletter
    · exact absurd List.mem_cons_self hv
    · rw [wordsFrom_quote, wordsFrom_quote]
      exact joined_map hw x _
    · rw [wordsFrom_space x v hspace, wordsFrom_space (w ++ x) v hspace]
      exact joined_map hw x _
    · rw [wordsFrom_letter x v hletter, wordsFrom_letter (w ++ x) v hletter, List.append_assoc]
      exact ih (x ++ [c]) hrest

/-- A blank in front of a text is passed over, or the first word begins with it. -/
theorem wordsFrom_front {b : Char} (hb : isBlank b = true) {v : List Char} (hv : '(' ∉ v) :
    Option.Rel (Trimmed StartsBlank) (wordsFrom (.outside []) v)
      (wordsFrom (.outside []) (b :: v)) := by
  rcases mark_cases b with hopen | hquote | hspace | hletter
  · exact absurd hopen (not_mark_of_isBlank hb).1
  · exact absurd hquote (not_mark_of_isBlank hb).2
  · rw [wordsFrom_space [] v hspace]
    cases wordsFrom (.outside []) v with
    | none => exact .none
    | some r => exact .some (.refl r)
  · rw [wordsFrom_letter [] v hletter]
    have hjoined : Option.Rel (Joined [b]) (wordsFrom (.outside []) v)
        (wordsFrom (.outside ([] ++ [b])) v) := wordsFrom_joined (List.cons_ne_nil b []) [] hv
    generalize wordsFrom (.outside []) v = part, wordsFrom (.outside ([] ++ [b])) v = whole
      at hjoined ⊢
    cases hjoined with
    | none => exact .none
    | some hwords =>
      obtain ⟨hlength, q, later, hfirst⟩ := hwords
      refine .some ⟨hlength, .inr ?_⟩
      rw [StartsBlank, hfirst]
      exact hb

theorem endsBlank_append {us ws : List TypeWord} (h : EndsBlank ws) : EndsBlank (us ++ ws) := by
  unfold EndsBlank at h ⊢
  rw [List.getLast?_append]
  cases hlast : ws.getLast? with
  | none =>
    rw [hlast] at h
    contradiction
  | some x =>
    rw [hlast] at h
    exact h

theorem trimmed_map (us : List TypeWord) {o o' : Option (List TypeWord × List Char)}
    (h : Option.Rel (Trimmed EndsBlank) o o') :
    Option.Rel (Trimmed EndsBlank) (o.map (withWords us)) (o'.map (withWords us)) := by
  cases h with
  | none => exact .none
  | some hr =>
    refine .some ⟨?_, hr.2.imp (congrArg (us ++ ·)) endsBlank_append⟩
    simp only [withWords, List.length_append]
    exact Nat.add_le_add_left hr.1 _

/-- A blank behind a text is passed over, or the last word ends with it. -/
theorem wordsFrom_back {b : Char} (hb : isBlank b = true) (p : TypePlace) {v : List Char}
    (hv : '(' ∉ v) :
    Option.Rel (Trimmed EndsBlank) (wordsFrom p v) (wordsFrom p (v ++ [b])) := by
  have hmark := not_mark_of_isBlank hb
  induction v generalizing p with
  | nil =>
    cases p with
    | quoted w =>
      rw [List.nil_append, wordsFrom_inner w [] hmark.2]
      exact .none
    | outside w =>
      rcases mark_cases b with hopen | hquote | hspace | hletter
      · exact absurd hopen hmark.1
      · exact absurd hquote hmark.2
      · rw [List.nil_append, wordsFrom_space w [] hspace]
        refine .some ⟨?_, .inl ?_⟩ <;> simp [withWords, plainWord]
      · rw [List.nil_append, wordsFrom_letter w [] hletter]
        have hword : plainWord (w ++ [b]) = [.plain (w ++ [b])] := if_neg (by simp)
        refine .some ⟨?_, .inr ?_⟩
        · rw [hword]
          exact plainWord_length w
        · rw [hword]
          simpa [EndsBlank, TypeWord.endsBlank] using hb
  | cons c v ih =>
    have hrest : '(' ∉ v := fun h => hv (List.mem_cons_of_mem c h)
    rw [List.cons_append]
    cases p with
    | outside w =>
      rcases mark_cases c with rfl | rfl | hspace | hletter
      · exact absurd List.mem_cons_self hv
      · rw [wordsFrom_quote, wordsFrom_quote]
        exact trimmed_map _ (ih _ hrest)
      · rw [wordsFrom_space w v hspace, wordsFrom_space w _ hspace]
        exact trimmed_map _ (ih _ hrest)
      · rw [wordsFrom_letter w v hletter, wordsFrom_letter w _ hletter]
        exact ih _ hrest
    | quoted w =>
      by_cases hquote : c = '"'
      · subst hquote
        rw [wordsFrom_close, wordsFrom_close]
        exact trimmed_map _ (ih _ hrest)
      · rw [wordsFrom_inner w v hquote, wordsFrom_inner w _ hquote]
        exact ih _ hrest

/-- A word at one of the ends has a blank there. -/
def Ragged (ws : List TypeWord) : Prop := StartsBlank ws ∨ EndsBlank ws

theorem wordsFrom_trimFront {u : List Char} (hu : '(' ∉ u) :
    Option.Rel (Trimmed Ragged) (wordsFrom (.outside []) (Text.trimFrontList u))
      (wordsFrom (.outside []) u) := by
  induction u with
  | nil => exact .some (.refl _)
  | cons c u ih =>
    have hrest : '(' ∉ u := fun h => hu (List.mem_cons_of_mem c h)
    by_cases hblank : isBlank c = true
    · rw [show Text.trimFrontList (c :: u) = Text.trimFrontList u from
        List.dropWhile_cons_of_pos hblank]
      exact Trimmed.trans (ih hrest) (Trimmed.mono (fun _ => .inl) (wordsFrom_front hblank hrest))
    · rw [Text.trimFrontList_of_head (by simpa using hblank)]
      cases wordsFrom (.outside []) (c :: u) with
      | none => exact .none
      | some r => exact .some (.refl r)

theorem wordsFrom_trimBack {u : List Char} (hu : '(' ∉ u) :
    Option.Rel (Trimmed Ragged) (wordsFrom (.outside []) (Text.trimFrontList u.reverse).reverse)
      (wordsFrom (.outside []) u) := by
  induction u using List.reverseRecOn with
  | nil => exact .some (.refl _)
  | append_singleton u c ih =>
    have hrest : '(' ∉ u := fun h => hu (List.mem_append_left [c] h)
    rw [List.reverse_append, List.reverse_singleton, List.singleton_append]
    by_cases hblank : isBlank c = true
    · rw [show Text.trimFrontList (c :: u.reverse) = Text.trimFrontList u.reverse from
        List.dropWhile_cons_of_pos hblank]
      exact Trimmed.trans (ih hrest) (Trimmed.mono (fun _ => .inr) (wordsFrom_back hblank _ hrest))
    · rw [Text.trimFrontList_of_head (by simpa using hblank), List.reverse_cons,
        List.reverse_reverse]
      cases wordsFrom (.outside []) (u ++ [c]) with
      | none => exact .none
      | some r => exact .some (.refl r)

/-- Trimming leaves the words alone, unless there is a blank at an end of one of them. -/
theorem wordsFrom_trim {u : List Char} (hu : '(' ∉ u) :
    Option.Rel (Trimmed Ragged) (wordsFrom (.outside []) (Text.trimList u))
      (wordsFrom (.outside []) u) := by
  have hfront : '(' ∉ Text.trimFrontList u := fun h => hu ((List.dropWhile_sublist _).subset h)
  exact Trimmed.trans (wordsFrom_trimBack hfront) (wordsFrom_trimFront hu)

/-- A text that ends with no blank has a last word that ends with none. -/
theorem ends_clean {p : TypePlace} {v rest : List Char} {d : Char} {ws : List TypeWord}
    (hd : isBlank d = false) (hopen : '(' ∉ v ++ [d])
    (h : wordsFrom p (v ++ [d]) = some (ws, rest)) :
    ∃ x, ws.getLast? = some x ∧ x.endsBlank = false := by
  induction v generalizing p ws rest with
  | nil =>
    cases p with
    | outside w =>
      rcases mark_cases d with rfl | rfl | hspace | hletter
      · exact absurd List.mem_cons_self hopen
      · simp [wordsFrom] at h
      · rw [isBlank_of_isSpace hspace] at hd
        contradiction
      · rw [List.nil_append, wordsFrom_letter w [] hletter] at h
        obtain ⟨rfl, _⟩ := Prod.mk.inj (Option.some.inj h)
        refine ⟨.plain (w ++ [d]), by simp [plainWord], ?_⟩
        simpa [TypeWord.endsBlank] using hd
    | quoted w =>
      by_cases hquote : d = '"'
      · subst hquote
        rw [List.nil_append, wordsFrom_close] at h
        obtain ⟨rfl, _⟩ := Prod.mk.inj (Option.some.inj h)
        exact ⟨.quoted w, by simp [plainWord], rfl⟩
      · rw [List.nil_append, wordsFrom_inner w [] hquote] at h
        contradiction
  | cons c v ih =>
    have hrest : '(' ∉ v ++ [d] := fun h => hopen (List.mem_cons_of_mem c h)
    -- words in front do not matter
    have hbehind {us : List TypeWord} {p : TypePlace}
        (ho : (wordsFrom p (v ++ [d])).map (withWords us) = some (ws, rest)) :
        ∃ x, ws.getLast? = some x ∧ x.endsBlank = false := by
      obtain ⟨r, hr, heq⟩ := Option.map_eq_some_iff.mp ho
      obtain ⟨rfl, _⟩ := Prod.mk.inj heq
      obtain ⟨x, hx, hclean⟩ := ih hrest hr
      exact ⟨x, by rw [List.getLast?_append, hx]; rfl, hclean⟩
    rw [List.cons_append] at h
    cases p with
    | outside w =>
      rcases mark_cases c with rfl | rfl | hspace | hletter
      · exact absurd List.mem_cons_self hopen
      · exact hbehind ((wordsFrom_quote w _).symm.trans h)
      · exact hbehind ((wordsFrom_space w _ hspace).symm.trans h)
      · exact ih hrest ((wordsFrom_letter w _ hletter).symm.trans h)
    | quoted w =>
      by_cases hquote : c = '"'
      · subst hquote
        exact hbehind ((wordsFrom_close w _).symm.trans h)
      · exact ih hrest ((wordsFrom_inner w _ hquote).symm.trans h)

/-- A text that begins with no blank has a first word that begins with none. -/
theorem starts_clean {c : Char} {v rest : List Char} {ws : List TypeWord} (hc : isBlank c = false)
    (hopen : '(' ∉ c :: v) (h : wordsFrom (.outside []) (c :: v) = some (ws, rest)) :
    ¬ StartsBlank ws := by
  have hrest : '(' ∉ v := fun h => hopen (List.mem_cons_of_mem c h)
  rcases mark_cases c with rfl | rfl | hspace | hletter
  · exact absurd List.mem_cons_self hopen
  · obtain ⟨r, hr, heq⟩ := Option.map_eq_some_iff.mp ((wordsFrom_quote [] v).symm.trans h)
    obtain ⟨rfl, _⟩ := Prod.mk.inj heq
    obtain ⟨q, later, hfirst⟩ := quoted_first hr
    simp [StartsBlank, plainWord, hfirst, TypeWord.startsBlank]
  · rw [isBlank_of_isSpace hspace] at hc
    contradiction
  · have hjoined : Option.Rel (Joined [c]) (wordsFrom (.outside []) v)
        (wordsFrom (.outside ([] ++ [c])) v) := wordsFrom_joined (List.cons_ne_nil c []) [] hrest
    rw [wordsFrom_letter [] v hletter] at h
    rw [h] at hjoined
    generalize wordsFrom (.outside []) v = part at hjoined
    cases hjoined with
    | some hwords =>
      obtain ⟨_, q, later, rfl⟩ := hwords
      simp [StartsBlank, TypeWord.startsBlank, hc]

/-- A text with no blank at its ends has none at the ends of its words. -/
theorem not_ragged {cs rest : List Char} {ws : List TypeWord} (hopen : '(' ∉ cs)
    (h : wordsFrom (.outside []) cs = some (ws, rest))
    (hfront : ∀ c, cs.head? = some c → isBlank c = false)
    (hback : ∀ c, cs.getLast? = some c → isBlank c = false) : ¬ Ragged ws := by
  rintro (hstarts | hends)
  · cases cs with
    | nil =>
      obtain ⟨rfl, _⟩ := Prod.mk.inj (Option.some.inj h)
      exact Bool.false_ne_true hstarts
    | cons c v => exact starts_clean (hfront c rfl) hopen h hstarts
  · rcases List.eq_nil_or_concat cs with rfl | ⟨v, d, rfl⟩
    · obtain ⟨rfl, _⟩ := Prod.mk.inj (Option.some.inj h)
      exact Bool.false_ne_true hends
    · rw [List.concat_eq_append] at h hopen hback
      obtain ⟨x, hx, hclean⟩ := ends_clean (hback d (by simp)) hopen h
      rw [EndsBlank, hx] at hends
      exact Bool.false_ne_true (hclean.symm.trans hends)

/-! ## Lower-casing -/

/-- A word is lower-cased to the other one, with its quotes. -/
inductive TypeWord.LowersTo : TypeWord → TypeWord → Prop where
  | plain {cs : List Char} {ps : List (List Char)} (h : List.Forall₂ Lowers cs ps) :
      LowersTo (.plain cs) (.plain ps.flatten)
  | quoted {cs : List Char} {ps : List (List Char)} (h : List.Forall₂ Lowers cs ps) :
      LowersTo (.quoted cs) (.quoted ps.flatten)

/-- The place is the same, and the word under way is lower-cased. -/
inductive TypePlace.LowersTo : TypePlace → TypePlace → Prop where
  | outside {w : List Char} {ps : List (List Char)} (h : List.Forall₂ Lowers w ps) :
      LowersTo (.outside w) (.outside ps.flatten)
  | quoted {w : List Char} {ps : List (List Char)} (h : List.Forall₂ Lowers w ps) :
      LowersTo (.quoted w) (.quoted ps.flatten)

theorem avoids_marks : avoids markRanges = true := by decide +kernel

/-- The ranges of one character. -/
def only (c : Char) : List (Nat × Nat) := [(c.toNat, c.toNat)]

theorem inRanges_only (c d : Char) : inRanges (only d) c = true ↔ c = d := by
  rw [← Char.toNat_inj]
  simp only [only, inRanges, List.any_cons, List.any_nil, Bool.or_false, Bool.and_eq_true,
    decide_eq_true_eq]
  omega

/-- A character that the table avoids comes from itself only. -/
theorem eq_of_mem_lowers {c d : Char} {p : List Char} (havoids : avoids (only d) = true)
    (hp : Lowers c p) (hd : d ∈ p) : c = d :=
  (inRanges_only c d).mp
    ((hp.inRanges_iff havoids hd).symm.trans ((inRanges_only d d).mpr rfl))

theorem wordsFrom_letters (w cs : List Char) {piece : List Char}
    (h : ∀ d ∈ piece, isMark d = false) :
    wordsFrom (.outside w) (piece ++ cs) = wordsFrom (.outside (w ++ piece)) cs := by
  induction piece generalizing w with
  | nil => rw [List.nil_append, List.append_nil]
  | cons d piece ih =>
    rw [List.cons_append, wordsFrom_letter w _ (h d List.mem_cons_self),
      ih (w ++ [d]) fun e he => h e (List.mem_cons_of_mem d he), List.append_assoc,
      List.singleton_append]

theorem wordsFrom_inners (w cs : List Char) {piece : List Char} (h : ∀ d ∈ piece, d ≠ '"') :
    wordsFrom (.quoted w) (piece ++ cs) = wordsFrom (.quoted (w ++ piece)) cs := by
  induction piece generalizing w with
  | nil => rw [List.nil_append, List.append_nil]
  | cons d piece ih =>
    rw [List.cons_append, wordsFrom_inner w _ (h d List.mem_cons_self),
      ih (w ++ [d]) fun e he => h e (List.mem_cons_of_mem d he), List.append_assoc,
      List.singleton_append]

theorem plainWord_lowers {w : List Char} {ps : List (List Char)} (h : List.Forall₂ Lowers w ps) :
    List.Forall₂ TypeWord.LowersTo (plainWord w) (plainWord ps.flatten) := by
  cases h with
  | nil => exact .nil
  | cons hp hps =>
    have hne := hp.ne_nil
    rw [plainWord, if_neg (List.cons_ne_nil _ _), plainWord, if_neg (by simp [hne])]
    exact .cons (.plain (.cons hp hps)) .nil

/-- Words that have been read from a text and from its lower case. -/
def LowerWords (part whole : List TypeWord × List Char) : Prop :=
  List.Forall₂ TypeWord.LowersTo part.1 whole.1

theorem lowerWords_map {us vs : List TypeWord} (hus : List.Forall₂ TypeWord.LowersTo us vs)
    {o o' : Option (List TypeWord × List Char)} (h : Option.Rel LowerWords o o') :
    Option.Rel LowerWords (o.map (withWords us)) (o'.map (withWords vs)) := by
  cases h with
  | none => exact .none
  | some hr => exact .some (List.rel_append hus hr)

/-- Every word is lower-cased for itself: marks are where they were. -/
theorem wordsFrom_lower {p p' : TypePlace} (hp : p.LowersTo p') {cs : List Char}
    {ps : List (List Char)} (hcs : List.Forall₂ Lowers cs ps) (hopen : '(' ∉ cs) :
    Option.Rel LowerWords (wordsFrom p cs) (wordsFrom p' ps.flatten) := by
  induction hcs generalizing p p' with
  | nil =>
    cases hp with
    | outside hw => exact .some (plainWord_lowers hw)
    | quoted hw => exact .none
  | @cons c piece cs ps hc hcs ih =>
    have hrest : '(' ∉ cs := fun h => hopen (List.mem_cons_of_mem c h)
    have hmark : isMark c = true → piece = [c] := hc.stays avoids_marks
    rw [List.flatten_cons]
    cases hp with
    | @outside w ws hw =>
      rcases mark_cases c with rfl | rfl | hspace | hletter
      · exact absurd List.mem_cons_self hopen
      · rw [hmark (by decide), List.singleton_append, wordsFrom_quote, wordsFrom_quote]
        exact lowerWords_map (plainWord_lowers hw) (ih (.quoted .nil) hrest)
      · rw [hmark (isMark_of_isSpace hspace), List.singleton_append,
          wordsFrom_space w _ hspace, wordsFrom_space ws.flatten _ hspace]
        exact lowerWords_map (plainWord_lowers hw) (ih (.outside .nil) hrest)
      · rw [wordsFrom_letter w _ hletter, wordsFrom_letters ws.flatten ps.flatten fun d hd =>
          (hc.inRanges_iff avoids_marks hd).trans hletter]
        have hlonger := TypePlace.LowersTo.outside (List.rel_append hw (.cons hc .nil))
        rw [List.flatten_append, List.flatten_singleton] at hlonger
        exact ih hlonger hrest
    | @quoted w ws hw =>
      by_cases hquote : c = '"'
      · subst hquote
        rw [hmark (by decide), List.singleton_append, wordsFrom_close, wordsFrom_close]
        exact lowerWords_map (.cons (.quoted hw) .nil) (ih (.outside .nil) hrest)
      · have hinner : ∀ d ∈ piece, d ≠ '"' := by
          rintro d hd rfl
          exact hquote (eq_of_mem_lowers (by decide +kernel) hc hd)
        rw [wordsFrom_inner w _ hquote, wordsFrom_inners ws.flatten ps.flatten hinner]
        have hlonger := TypePlace.LowersTo.quoted (List.rel_append hw (.cons hc .nil))
        rw [List.flatten_append, List.flatten_singleton] at hlonger
        exact ih hlonger hrest

end RowServe
