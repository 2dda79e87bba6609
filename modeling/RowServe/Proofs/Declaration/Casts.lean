import Mathlib.Data.List.DropRight
import RowServe.Proofs.Declaration.TypeFamilies
import RowServe.Proofs.Results
import RowServe.Proofs.Text.Trim

/-!
# Casts that keep a value

A bound value is cast to the name of its column's type without the modifier, in lower case. The
words of the cast are those of the declared name, trimmed and lower-cased, so whether the cast keeps
every value that the column takes can be told from the declared name.

Results:

* `SqlType.base_read`: the words of a cast.
* `SqlType.keptBy_cast_iff`: the cast of a declared type keeps its values exactly if it is wide.
-/

namespace RowServe

open Text (Lowers avoids isBlank)

/-! ## What the words of a cast are made of -/

/-- Words that are left of others behind trimming and lower-casing. -/
structure Derived (ws ws' : List TypeWord) : Prop where
  clean : ¬ Ragged ws'
  length_le : ws'.length ≤ ws.length
  lowers : ¬ Ragged ws → List.Forall₂ TypeWord.LowersTo ws ws'

namespace Derived

variable {ws ws' behind : List TypeWord}

theorem folded_eq_iff (h : Derived ws ws') :
    ws'.map TypeWord.folded = ws.map TypeWord.folded ↔ ¬ Ragged ws ∧ ∀ w ∈ ws, w.Steady := by
  constructor
  · intro hfolded
    have hclean : ¬ Ragged ws := by
      rw [← ragged_folded ws, ← hfolded, ragged_folded]
      exact h.clean
    exact ⟨hclean, (RowServe.folded_eq_iff (h.lowers hclean)).mp hfolded⟩
  · rintro ⟨hclean, hsteady⟩
    exact (RowServe.folded_eq_iff (h.lowers hclean)).mpr hsteady

/-- The words make the family of the whole type exactly if they are the same and nothing behind the
    modifier matters. -/
theorem canonical_iff (h : Derived ws ws') (hne : ws ≠ []) :
    TypePhrase.canonical (ws'.map TypeWord.folded) =
        TypePhrase.canonical (ws.map TypeWord.folded ++ behind) ↔
      ws'.map TypeWord.folded = ws.map TypeWord.folded ∧
        (behind = [] ∨ ∃ w ∈ TypePhrase.zoneTypes, ws.map TypeWord.folded = [w] ∧
          behind = TypePhrase.withoutZone) := by
  have hne' : ws.map TypeWord.folded ≠ [] := by simpa using hne
  by_cases hragged : Ragged ws
  · refine ⟨fun hfamily => ?_, fun ⟨hsame, _⟩ => absurd hragged (h.folded_eq_iff.mp hsame).1⟩
    exfalso
    rcases TypePhrase.canonical_eq hfamily with hsame | hzone
    · -- there are no more words than before trimming, so none stands behind the modifier
      have hlength := congrArg List.length hsame
      have hle := h.length_le
      simp only [List.length_append, List.length_map] at hlength
      obtain rfl := List.eq_nil_of_length_eq_zero (by omega : behind.length = 0)
      rw [List.append_nil] at hsame
      exact (h.folded_eq_iff.mp hsame).1 hragged
    · have hclean : ∀ w ∈ TypePhrase.zoneTypes ++ TypePhrase.withoutZone,
          w.startsBlank = false ∧ w.endsBlank = false := by
        decide +kernel
      rw [← ragged_folded] at hragged
      exact not_ragged_of_clean
        (fun w hw => hclean w (hzone w (List.mem_append_left _ hw))) hragged
  · have hlength := (h.lowers hragged).length_eq
    exact TypePhrase.canonical_append_iff (by simpa using hlength.symm) hne'

end Derived

/-! ## The text of a cast -/

theorem rest_nil {cs rest : List Char} {ws : List TypeWord} (hopen : '(' ∉ cs)
    (h : wordsFrom (.outside []) cs = some (ws, rest)) : rest = [] := by
  have hcut := wordsFrom_cut (fun _ hx => by contradiction) h
  rw [List.takeWhile_eq_self_iff.mpr (by
    rintro c hc
    simpa using ne_of_mem_of_not_mem hc hopen), h] at hcut
  rcases hcut with ⟨hwhole, _⟩ | ⟨hnone, _⟩
  · exact (Prod.mk.inj (Option.some.inj hwhole)).2
  · contradiction

theorem TypePhrase.read_words {s : String} {t : TypePhrase} (h : TypePhrase.read? s = some t) :
    t.words ≠ [] ∧ ∃ rest, wordsFrom (.outside []) s.toList = some (t.words, rest) := by
  unfold TypePhrase.read? at h
  obtain ⟨⟨words, rest⟩, hwords, h⟩ := Option.bind_eq_some_iff.mp h
  dsimp only at h
  split_ifs at h with hempty
  cases rest with
  | nil =>
    obtain rfl := Option.some.inj h
    exact ⟨hempty, _, hwords⟩
  | cons c inner =>
    dsimp only at h
    split at h
    · contradiction
    · obtain ⟨⟨behind, more⟩, _, h⟩ := Option.bind_eq_some_iff.mp h
      dsimp only at h
      split_ifs at h
      obtain rfl := Option.some.inj h
      exact ⟨hempty, _, hwords⟩

/-- A name without a parenthesis has no modifier. -/
theorem TypePhrase.read_bare {s : String} (hopen : '(' ∉ s.toList) {t : TypePhrase} :
    TypePhrase.read? s = some t ↔
      t.words ≠ [] ∧ t.modifier = none ∧ t.behind = [] ∧
        wordsFrom (.outside []) s.toList = some (t.words, []) := by
  obtain ⟨words, modifier, behind⟩ := t
  unfold TypePhrase.read?
  cases hwords : wordsFrom (.outside []) s.toList with
  | none => simp
  | some r =>
    obtain ⟨ws, rest⟩ := r
    obtain rfl := rest_nil hopen hwords
    by_cases hempty : ws = []
    · simp only [Option.bind_eq_bind, Option.bind_some, if_pos hempty]
      constructor
      · intro h
        contradiction
      · rintro ⟨hne, _, _, hsame⟩
        exact absurd ((Prod.mk.inj (Option.some.inj hsame)).1.symm.trans hempty) hne
    · simp only [Option.bind_eq_bind, Option.bind_some, if_neg hempty, Option.some.injEq,
        TypePhrase.mk.injEq, Prod.mk.injEq, and_true]
      constructor
      · rintro ⟨rfl, rfl, rfl⟩
        exact ⟨hempty, rfl, rfl, rfl⟩
      · rintro ⟨_, rfl, rfl, rfl⟩
        exact ⟨rfl, rfl, rfl⟩

theorem avoids_blank : avoids Text.blankRanges = true := by decide +kernel

/-- Lower-casing puts no blanks to the ends of a text. -/
theorem flatten_ends {cs : List Char} {ps : List (List Char)} (h : List.Forall₂ Lowers cs ps)
    (hfront : ∀ c, cs.head? = some c → isBlank c = false)
    (hback : ∀ c, cs.getLast? = some c → isBlank c = false) :
    (∀ d, ps.flatten.head? = some d → isBlank d = false) ∧
      ∀ d, ps.flatten.getLast? = some d → isBlank d = false := by
  have hpiece {c : Char} {p : List Char} (hp : Lowers c p) (hc : isBlank c = false) :
      ∀ d ∈ p, isBlank d = false := fun d hd => (hp.inRanges_iff avoids_blank hd).trans hc
  constructor
  · cases h with
    | nil => simp
    | @cons c p cs ps hp hps =>
      intro d hd
      rw [List.flatten_cons, List.head?_append_of_ne_nil _ hp.ne_nil] at hd
      exact hpiece hp (hfront c rfl) d (List.mem_of_head? hd)
  · rcases List.eq_nil_or_concat cs with rfl | ⟨cs, c, rfl⟩
    · cases h
      simp
    · rw [List.concat_eq_append] at h hback
      have hreverse := List.rel_reverse h
      rw [List.reverse_append, List.reverse_singleton, List.singleton_append] at hreverse
      obtain ⟨p, qs, hp, _, hqs⟩ := List.forall₂_cons_left_iff.mp hreverse
      obtain rfl : ps = qs.reverse ++ [p] := by
        rw [← List.reverse_cons, ← hqs, List.reverse_reverse]
      intro d hd
      rw [List.flatten_append, List.flatten_singleton, List.getLast?_append_of_ne_nil _ hp.ne_nil]
        at hd
      exact hpiece hp (hback c (by simp)) d (List.mem_of_getLast? hd)

namespace SqlType

/-- The declared text and the declared name are the same up to the first parenthesis. -/
theorem text_cut (t : SqlType) :
    t.text.toList.takeWhile (· ≠ '(') = t.name.toList.takeWhile (· ≠ '(') := by
  have hcut (cs ds : List Char) :
      (cs ++ '(' :: ds).takeWhile (· ≠ '(') = cs.takeWhile (· ≠ '(') := by
    induction cs with
    | nil => rfl
    | cons c cs ih =>
      rw [List.cons_append, List.takeWhile_cons, List.takeWhile_cons, ih]
  match t with
  | simple s => rfl
  | parameterized name none => rfl
  | parameterized name (some []) => rfl
  | parameterized name (some (n :: params)) =>
    show (name ++ "(" ++ ", ".intercalate ((n :: params).map Nat.repr) ++ ")").toList.takeWhile
      _ = _
    rw [String.toList_append, String.toList_append, String.toList_append, List.append_assoc,
      List.append_assoc]
    exact hcut _ _

/-- The characters of the base name: those up to the first parenthesis, trimmed, in lower case. -/
theorem base_pieces (t : SqlType) :
    ∃ ps, List.Forall₂ Lowers (Text.trimList (t.name.toList.takeWhile (· ≠ '('))) ps ∧
      t.base.toList = ps.flatten := by
  unfold base Text.toLower Text.trim
  rw [String.toList_ofList, String.toList_ofList, String.toList_ofList]
  exact Text.lowerAfter_pieces [] _

theorem not_open_cut (cs : List Char) : '(' ∉ cs.takeWhile (· ≠ '(') := by
  intro h
  simpa using List.mem_takeWhile_imp h

theorem not_open_trim (t : SqlType) :
    '(' ∉ Text.trimList (t.name.toList.takeWhile (· ≠ '(')) := by
  intro h
  have hfront : Text.trimList (t.name.toList.takeWhile (· ≠ '(')) <+:
      Text.trimFrontList (t.name.toList.takeWhile (· ≠ '(')) := List.rdropWhile_prefix isBlank _
  exact not_open_cut _ ((List.dropWhile_sublist _).subset (hfront.subset h))

/-- The base name has no parenthesis, and no blanks at its ends. -/
theorem base_clean (t : SqlType) :
    '(' ∉ t.base.toList ∧ (∀ c, t.base.toList.head? = some c → isBlank c = false) ∧
      ∀ c, t.base.toList.getLast? = some c → isBlank c = false := by
  obtain ⟨ps, hps, hbase⟩ := t.base_pieces
  have hends := Text.trimList_ends (t.name.toList.takeWhile (· ≠ '('))
  rw [hbase]
  refine ⟨fun hopen => ?_, flatten_ends hps hends.1 hends.2⟩
  obtain ⟨p, hp, hopen⟩ := List.mem_flatten.mp hopen
  obtain ⟨c, hc, hlowers⟩ := partner_of_mem hps hp
  rw [eq_of_mem_lowers (by decide +kernel) hlowers hopen] at hc
  exact t.not_open_trim hc

/-- The base name is read as the words that trimming and lower-casing leave of the declared ones. If
    the first parenthesis stands within quotes, it is no name. -/
theorem base_read {t : SqlType} {τ : TypePhrase} (h : TypePhrase.read? t.text = some τ) :
    (wordsFrom (.outside []) t.base.toList = none ∧ ∃ w ∈ τ.words, ¬ w.Uncut) ∨
      (∃ ws, wordsFrom (.outside []) t.base.toList = some (ws, []) ∧ Derived τ.words ws) ∧
        ∀ w ∈ τ.words, w.Uncut := by
  obtain ⟨_, rest, hwords⟩ := TypePhrase.read_words h
  have hcut := wordsFrom_cut (fun _ hx => by contradiction) hwords
  obtain ⟨ps, hps, hbase⟩ := t.base_pieces
  have hclean := t.base_clean
  have htrim := wordsFrom_trim (not_open_cut t.name.toList)
  have hlower := wordsFrom_lower (.outside .nil) hps t.not_open_trim
  rw [text_cut] at hcut
  rw [List.flatten_nil, ← hbase] at hlower
  generalize wordsFrom (.outside []) (Text.trimList _) = trimmed at htrim hlower
  rcases hcut with ⟨hpart, huncut⟩ | ⟨hnone, hparen⟩
  · rw [hpart] at htrim
    cases htrim with
    | @some r _ hkept =>
      generalize hread : wordsFrom (.outside []) t.base.toList = lower at hlower
      cases hlower with
      | @some _ r' hwords' =>
        obtain ⟨ws, rest'⟩ := r'
        obtain rfl := rest_nil hclean.1 hread
        refine .inr ⟨⟨ws, rfl, ?_, ?_, fun hends => ?_⟩, huncut⟩
        · exact not_ragged hclean.1 hread hclean.2.1 hclean.2.2
        · exact hwords'.length_eq ▸ hkept.1
        · have hlowers : List.Forall₂ TypeWord.LowersTo r.1 ws := hwords'
          rwa [hkept.2.resolve_right hends] at hlowers
  · rw [hnone] at htrim
    cases htrim
    generalize wordsFrom (.outside []) t.base.toList = lower at hlower ⊢
    cases hlower
    exact .inl ⟨rfl, hparen⟩

end SqlType

/-! ## Types in one word -/

/-- Behind the first letter of a text that is read as one word, everything belongs to the word. -/
theorem eq_of_word {x v w : List Char} (hx : x ≠ []) (hopen : '(' ∉ v)
    (hback : ∀ c, v.getLast? = some c → isBlank c = false)
    (h : wordsFrom (.outside x) v = some ([.plain w], [])) : x ++ v = w := by
  induction v generalizing x with
  | nil =>
    have hword := (Prod.mk.inj (Option.some.inj h)).1
    rw [plainWord, if_neg hx] at hword
    rw [List.append_nil]
    exact TypeWord.plain.inj (List.cons.inj hword).1
  | cons c v ih =>
    have hrest : '(' ∉ v := fun h => hopen (List.mem_cons_of_mem c h)
    have hback' : ∀ d, v.getLast? = some d → isBlank d = false := fun d hd =>
      hback d (by rw [List.getLast?_cons, hd]; rfl)
    have hnone {o : Option (List TypeWord × List Char)}
        (ho : o.map (withWords (plainWord x)) = some ([.plain w], [])) : o = some ([], []) := by
      obtain ⟨r, rfl, heq⟩ := Option.map_eq_some_iff.mp ho
      obtain ⟨hwords, htext⟩ := Prod.mk.inj heq
      rw [plainWord, if_neg hx] at hwords
      exact congrArg some (Prod.ext (List.cons.inj hwords).2 htext)
    rcases mark_cases c with rfl | rfl | hspace | hletter
    · exact absurd List.mem_cons_self hopen
    · obtain ⟨q, later, hfirst⟩ := quoted_first (hnone ((wordsFrom_quote x v).symm.trans h))
      contradiction
    · have hread := hnone ((wordsFrom_space x v hspace).symm.trans h)
      rcases List.eq_nil_or_concat v with rfl | ⟨v, d, rfl⟩
      · have hclean := hback c rfl
        rw [isBlank_of_isSpace hspace] at hclean
        exact absurd hclean.symm Bool.false_ne_true
      · rw [List.concat_eq_append] at hread hrest hback'
        obtain ⟨_, hlast, _⟩ := ends_clean (hback' d (by simp)) hrest hread
        contradiction
    · have hword := ih (by simp) hrest hback' ((wordsFrom_letter x v hletter).symm.trans h)
      rwa [List.append_assoc] at hword

/-- A text without blanks at its ends that is read as one word is this word. -/
theorem eq_of_single {cs w : List Char} (hopen : '(' ∉ cs)
    (hfront : ∀ c, cs.head? = some c → isBlank c = false)
    (hback : ∀ c, cs.getLast? = some c → isBlank c = false)
    (h : wordsFrom (.outside []) cs = some ([.plain w], [])) : cs = w := by
  cases cs with
  | nil => simp [wordsFrom, plainWord] at h
  | cons c v =>
    have hrest : '(' ∉ v := fun h => hopen (List.mem_cons_of_mem c h)
    have hback' : ∀ d, v.getLast? = some d → isBlank d = false := fun d hd =>
      hback d (by rw [List.getLast?_cons, hd]; rfl)
    rcases mark_cases c with rfl | rfl | hspace | hletter
    · exact absurd List.mem_cons_self hopen
    · obtain ⟨r, hr, heq⟩ := Option.map_eq_some_iff.mp ((wordsFrom_quote [] v).symm.trans h)
      obtain ⟨q, later, hfirst⟩ := quoted_first hr
      simp [withWords, plainWord, hfirst] at heq
    · have hclean := hfront c rfl
      rw [isBlank_of_isSpace hspace] at hclean
      contradiction
    · exact eq_of_word (List.cons_ne_nil c []) hrest hback'
        ((wordsFrom_letter [] v hletter).symm.trans h)

/-- The word is made of ASCII characters other than blanks. -/
def TypeWord.Simple (w : TypeWord) : Prop := ∀ c ∈ w.chars, c.toNat < 128 ∧ isBlank c = false

namespace TypeWord.Simple

variable {w : TypeWord}

theorem of_folded (h : w.folded.Simple) : w.Simple := by
  cases w with
  | quoted cs => exact h
  | plain cs =>
    intro c hc
    obtain ⟨hascii, hblank⟩ := h c.toLower (List.mem_map_of_mem hc)
    rw [isBlank_toLower] at hblank
    refine ⟨?_, hblank⟩
    by_contra hno
    rw [toLower_of_not_ascii hno] at hascii
    exact hno hascii

theorem not_ragged (h : w.Simple) : ¬ Ragged [w] := by
  apply not_ragged_of_clean
  intro x hx
  rw [List.mem_singleton.mp hx]
  cases w with
  | quoted cs => exact ⟨rfl, rfl⟩
  | plain cs =>
    constructor
    · cases hhead : cs.head? with
      | none => simp [startsBlank, hhead]
      | some c => simp [startsBlank, hhead, (h c (List.mem_of_head? hhead)).2]
    · cases hlast : cs.getLast? with
      | none => simp [endsBlank, hlast]
      | some c => simp [endsBlank, hlast, (h c (List.mem_of_getLast? hlast)).2]

/-- Without quotes the word is lower-cased as it is folded. -/
theorem lowers {cs : List Char} (h : (plain cs).Simple) {x : TypeWord}
    (hx : (plain cs).LowersTo x) : x = (plain cs).folded := by
  cases hx with
  | plain hps =>
    show plain _ = plain _
    rw [plain.injEq]
    induction hps with
    | nil => rfl
    | @cons c p cs ps hp _ ih =>
      rw [List.flatten_cons, hp.ascii (h c List.mem_cons_self).1, List.map_cons,
        ih fun d hd => h d (List.mem_cons_of_mem c hd), List.singleton_append]

theorem steady {cs : List Char} (h : (plain cs).Simple) : (plain cs).Steady :=
  fun c hc => .inl (h c hc).1

end TypeWord.Simple

/-! ## Serial types -/

namespace TypePhrase

theorem serialTarget?_eq (s : String) : SqlType.serialTarget? s = serialTypes.lookup s := by
  unfold SqlType.serialTarget? serialTypes
  split_ifs with hint hbig hsmall
  · rcases hint with rfl | rfl <;> rfl
  · rcases hbig with rfl | rfl <;> rfl
  · rcases hsmall with rfl | rfl <;> rfl
  · rw [not_or] at hint hbig hsmall
    exact (List.lookup_eq_none_iff.mpr (by simp [hint, hbig, hsmall])).symm

theorem mem_of_lookup {s target : String} (h : serialTypes.lookup s = some target) :
    (s, target) ∈ serialTypes := by
  obtain ⟨before, behind, hsplit, _⟩ := List.lookup_eq_some_iff.mp h
  rw [hsplit]
  exact List.mem_append_right before List.mem_cons_self

/-- The word without quotes is a name by itself. -/
structure OneWord (s : String) : Prop where
  bare : '(' ∉ s.toList
  read : wordsFrom (.outside []) s.toList = some ([.of s], [])
  folded : (TypeWord.of s).folded = .of s
  simple : (TypeWord.of s).Simple
  unlimited : [.of s] ∉ oneUnit
  unzoned : .of s ∉ zoneTypes ++ withoutZone

/-- Serial types and their integer types are names by themselves. -/
theorem oneWord_of_lookup {s target : String} (h : serialTypes.lookup s = some target) :
    OneWord s ∧ OneWord target := by
  have htable : ∀ e ∈ serialTypes, ∀ n ∈ [e.1, e.2], '(' ∉ n.toList ∧
      wordsFrom (.outside []) n.toList = some ([.of n], []) ∧ (TypeWord.of n).folded = .of n ∧
      ((TypeWord.of n).chars.all fun c => c.toNat < 128 && !isBlank c) = true ∧
      [.of n] ∉ oneUnit ∧ .of n ∉ zoneTypes ++ withoutZone := by
    decide +kernel
  have hone {n : String} (hn : n ∈ [s, target]) : OneWord n := by
    obtain ⟨hbare, hread, hfolded, hsimple, hunlimited, hunzoned⟩ :=
      htable _ (mem_of_lookup h) n hn
    exact ⟨hbare, hread, hfolded, by simpa [TypeWord.Simple] using hsimple, hunlimited, hunzoned⟩
  exact ⟨hone (by simp), hone (by simp)⟩

theorem storedWords_of_lookup {w : TypeWord} {target : String}
    (h : serialTypes.lookup (String.ofList w.chars) = some target) :
    storedWords [w] = [.of target] := by
  simp only [storedWords, h]

/-- The stored words are the words, unless they are a serial type. -/
theorem storedWords_cases (ws : List TypeWord) :
    storedWords ws = ws ∨ ∃ w target, ws = [w] ∧
      serialTypes.lookup (String.ofList w.chars) = some target ∧ storedWords ws = [.of target] := by
  match ws with
  | [] => exact .inl rfl
  | _ :: _ :: _ => exact .inl rfl
  | [w] =>
    cases hlookup : serialTypes.lookup (String.ofList w.chars) with
    | none => exact .inl (by simp only [storedWords, hlookup])
    | some target => exact .inr ⟨w, target, rfl, hlookup, storedWords_of_lookup hlookup⟩

theorem simple_of_lookup {w : TypeWord} {target : String}
    (h : serialTypes.lookup (String.ofList w.chars) = some target) : w.Simple := by
  have hsimple := (oneWord_of_lookup h).1.simple
  simpa [TypeWord.Simple, TypeWord.of, TypeWord.chars] using hsimple

/-- A column of an integer type is declared with one simple word. -/
theorem simple_of_column {ws behind : List TypeWord} {target : String} (hne : ws ≠ [])
    (htarget : OneWord target)
    (h : canonical [.of target] = canonical (storedWords (ws.map TypeWord.folded) ++ behind)) :
    ∃ w, ws.map TypeWord.folded = [w] ∧ w.Simple ∧ behind = [] := by
  have hwhole : [.of target] = storedWords (ws.map TypeWord.folded) ++ behind := by
    refine (canonical_eq h).resolve_right fun hzone => ?_
    obtain ⟨later, hfirst⟩ := canonical_head h
    exact htarget.unzoned (hzone _ (hfirst ▸ List.mem_cons_self))
  rcases storedWords_cases (ws.map TypeWord.folded) with
    hsame | ⟨w, target', hone, hlookup, hstored⟩
  · obtain ⟨x, xs, hcons⟩ := List.exists_cons_of_ne_nil hne
    rw [hsame, hcons, List.map_cons, List.cons_append] at hwhole
    obtain ⟨hx, hrest⟩ := List.cons.inj hwhole
    obtain ⟨hxs, hbehind⟩ := List.append_eq_nil_iff.mp hrest.symm
    exact ⟨.of target, by rw [hcons, List.map_cons, hxs, hx], htarget.simple, hbehind⟩
  · rw [hstored] at hwhole
    exact ⟨w, hone, simple_of_lookup hlookup, (List.cons.inj hwhole).2.symm⟩

/-- Words that are stored as they are are no serial type, in quotes or not. -/
theorem not_quotedSerial {ws : List TypeWord}
    (h : storedWords (ws.map TypeWord.folded) = ws.map TypeWord.folded) : ¬ QuotedSerial ws := by
  intro hserial
  match ws with
  | [.quoted q] =>
    obtain ⟨target, hlookup⟩ := Option.isSome_iff_exists.mp hserial
    have hstored := (storedWords_of_lookup (w := .quoted q) hlookup).symm.trans h
    exact nomatch (List.cons.inj hstored).1

end TypePhrase

/-- The only word of a declared name that is folded to a simple one is that of the cast, without
    quotes. -/
theorem Derived.single {w w' : TypeWord} (h : Derived [w] [w']) (hw : w.folded.Simple) :
    w.LowersTo w' :=
  (List.forall₂_cons.mp (h.lowers hw.of_folded.not_ragged)).1

theorem plain_of_lowersTo {w : TypeWord} {s : String} (h : w.LowersTo (.of s)) :
    ∃ cs, w = .plain cs := by
  unfold TypeWord.of at h
  generalize s.toList = ds at h
  cases h with
  | plain _ => exact ⟨_, rfl⟩

/-! ## Casts without a modifier -/

namespace TypePhrase

variable {τ : TypePhrase} {ws : List TypeWord} {s target : String}

/-- A cast without a modifier keeps a column of its family; one to a type of one unit only if the
    values of the column have one. -/
theorem holds_bare_iff : (⟨ws, none, []⟩ : TypePhrase).Holds τ ↔
    canonical (ws.map TypeWord.folded) = τ.columnFamily ∧
      (ws.map TypeWord.folded ∈ oneUnit → τ.limit = some ['1']) := by
  have hfamily : (⟨ws, none, []⟩ : TypePhrase).family = canonical (ws.map TypeWord.folded) :=
    congrArg canonical (List.append_nil _)
  unfold Holds
  rw [hfamily]
  refine and_congr_right fun _ => ?_
  show ((if ws.map TypeWord.folded ∈ oneUnit then some ['1'] else none) = none ∨
    (if ws.map TypeWord.folded ∈ oneUnit then some ['1'] else none) = τ.limit) ↔ _
  split_ifs with hunit
  · simp [hunit, eq_comm]
  · simp [hunit]

/-- The words of a declared type that is none of the serial ones. -/
theorem holds_words_iff (hne : τ.words ≠ []) (hderived : Derived τ.words ws)
    (huncut : ∀ w ∈ τ.words, w.Uncut)
    (hstored : storedWords (τ.words.map TypeWord.folded) = τ.words.map TypeWord.folded) :
    (⟨ws, none, []⟩ : TypePhrase).Holds τ ↔ τ.Wide := by
  rw [holds_bare_iff, columnFamily, hstored, hderived.canonical_iff hne, hderived.folded_eq_iff]
  constructor
  · rintro ⟨⟨⟨hends, hsteady⟩, hbehind⟩, hunit⟩
    have hfolded := hderived.folded_eq_iff.mpr ⟨hends, hsteady⟩
    exact {
      ends := hends
      uncut := huncut
      steady := hsteady
      serial := not_quotedSerial hstored
      behind := hbehind.imp_left List.map_eq_nil_iff.mp
      unit := hfolded ▸ hunit }
  · intro hwide
    have hfolded := hderived.folded_eq_iff.mpr ⟨hwide.ends, hwide.steady⟩
    exact ⟨⟨⟨hwide.ends, hwide.steady⟩, hwide.behind.imp_left List.map_eq_nil_iff.mpr⟩,
      hfolded ▸ hwide.unit⟩

section Serial

variable (hlookup : serialTypes.lookup s = some target) (hderived : Derived τ.words [.of s])
include hlookup hderived

/-- A declared name that is kept by the integer type of a serial one is this serial type, without
    quotes. -/
theorem wide_of_serial (hne : τ.words ≠ []) (huncut : ∀ w ∈ τ.words, w.Uncut)
    (hfamily : canonical [.of target] = τ.columnFamily) : τ.Wide := by
  obtain ⟨hserial, htarget⟩ := oneWord_of_lookup hlookup
  obtain ⟨w, hw, hsimple, hbehind⟩ := simple_of_column hne htarget hfamily
  obtain ⟨w, hone, rfl⟩ := List.map_eq_singleton_iff.mp hw
  rw [hone] at hderived
  have hlowers := hderived.single hsimple
  obtain ⟨cs, rfl⟩ := plain_of_lowersTo hlowers
  have hplain := hsimple.of_folded
  exact {
    ends := hone ▸ hplain.not_ragged
    uncut := huncut
    steady := by
      rw [hone]
      exact List.forall_mem_singleton.mpr hplain.steady
    serial := by
      rw [hone]
      exact id
    behind := .inl (List.map_eq_nil_iff.mp hbehind)
    unit := fun hunit => by
      rw [hw, ← hplain.lowers hlowers] at hunit
      exact absurd hunit hserial.unlimited }

theorem columnFamily_serial (hwide : τ.Wide) : canonical [.of target] = τ.columnFamily := by
  obtain ⟨hserial, _⟩ := oneWord_of_lookup hlookup
  have hfolded := hderived.folded_eq_iff.mpr ⟨hwide.ends, hwide.steady⟩
  rw [List.map_singleton, hserial.folded] at hfolded
  have hbehind : τ.behind = [] := by
    refine hwide.behind.resolve_right ?_
    rintro ⟨w, hw, hone, _⟩
    rw [← hfolded] at hone
    obtain rfl := (List.cons.inj hone).1
    exact hserial.unzoned (List.mem_append_left _ hw)
  have hstored : storedWords [.of s] = [.of target] :=
    storedWords_of_lookup (by simpa [TypeWord.of, TypeWord.chars] using hlookup)
  rw [columnFamily, ← hfolded, hbehind, hstored, List.map_nil, List.append_nil]

/-- A serial type is cast to its integer type. -/
theorem holds_serial_iff (hne : τ.words ≠ []) (huncut : ∀ w ∈ τ.words, w.Uncut) :
    (⟨[.of target], none, []⟩ : TypePhrase).Holds τ ↔ τ.Wide := by
  obtain ⟨_, htarget⟩ := oneWord_of_lookup hlookup
  rw [holds_bare_iff, List.map_singleton, htarget.folded]
  constructor
  · exact fun ⟨hfamily, _⟩ => wide_of_serial hlookup hderived hne huncut hfamily
  · intro hwide
    exact ⟨columnFamily_serial hlookup hderived hwide, fun hunit => absurd hunit htarget.unlimited⟩

end Serial

end TypePhrase

namespace SqlType

open TypePhrase (serialTypes)

variable {t : SqlType} {τ : TypePhrase}

theorem keptBy_iff (h : TypePhrase.read? t.text = some τ) {cast : String} {target : TypePhrase}
    (hcast : TypePhrase.read? cast = some target) : t.KeptBy cast ↔ target.Holds τ := by
  constructor
  · rintro ⟨τ', target', hτ, htarget, hholds⟩
    obtain rfl := Option.some.inj (h.symm.trans hτ)
    obtain rfl := Option.some.inj (hcast.symm.trans htarget)
    exact hholds
  · exact fun hholds => ⟨τ, target, h, hcast, hholds⟩

theorem not_keptBy {cast : String} (h : TypePhrase.read? cast = none) : ¬ t.KeptBy cast := by
  rintro ⟨_, _, _, hcast, _⟩
  rw [h] at hcast
  contradiction

/-- The cast of a serial type is its integer type. -/
theorem keptBy_serial (h : TypePhrase.read? t.text = some τ) {target : String}
    (hserial : serialTarget? t.base = some target) : t.KeptBy t.cast ↔ τ.Wide := by
  rw [TypePhrase.serialTarget?_eq] at hserial
  obtain ⟨hbase, htarget⟩ := TypePhrase.oneWord_of_lookup hserial
  have hcast : t.cast = target := by
    rw [cast, TypePhrase.serialTarget?_eq, hserial]
    rfl
  have hread : TypePhrase.read? t.cast = some ⟨[.of target], none, []⟩ := by
    rw [hcast]
    exact (TypePhrase.read_bare htarget.bare).mpr ⟨List.cons_ne_nil _ _, rfl, rfl, htarget.read⟩
  rw [keptBy_iff h hread]
  obtain ⟨hnone, _⟩ | ⟨⟨ws, hws, hderived⟩, huncut⟩ := base_read h
  · rw [hbase.read] at hnone
    exact absurd hnone (Option.some_ne_none _)
  obtain rfl : [.of t.base] = ws := (Prod.mk.inj (Option.some.inj (hbase.read.symm.trans hws))).1
  exact TypePhrase.holds_serial_iff hserial hderived (TypePhrase.read_words h).1 huncut

/-- A serial type that is not taken for one is written in quotes. -/
theorem quoted_of_not_serial (hserial : serialTarget? t.base = none) {w : TypeWord}
    {ws : List TypeWord} {target : String}
    (hws : wordsFrom (.outside []) t.base.toList = some (ws, [])) (hderived : Derived [w] ws)
    (hlookup : serialTypes.lookup (String.ofList w.folded.chars) = some target) :
    ∃ q q', w = .quoted q ∧ ws = [.quoted q'] := by
  have hsimple := (TypePhrase.simple_of_lookup hlookup).of_folded
  obtain ⟨w', _, hlowers, hnil, rfl⟩ :=
    List.forall₂_cons_left_iff.mp (hderived.lowers hsimple.not_ragged)
  obtain rfl := List.forall₂_nil_left_iff.mp hnil
  cases w with
  | plain cs =>
    obtain ⟨hopen, hfront, hback⟩ := t.base_clean
    rw [hsimple.lowers hlowers] at hws
    have hbase := eq_of_single hopen hfront hback hws
    rw [TypePhrase.serialTarget?_eq, ← String.ofList_toList (s := t.base), hbase] at hserial
    exact absurd (hserial.symm.trans hlookup) (Option.some_ne_none target).symm
  | quoted q =>
    cases hlowers
    exact ⟨q, _, rfl, rfl⟩

/-- The cast of any other type is the declared name as it is left by cutting and lower-casing. -/
theorem keptBy_base (h : TypePhrase.read? t.text = some τ) (hserial : serialTarget? t.base = none) :
    t.KeptBy t.cast ↔ τ.Wide := by
  rw [cast_of_not_serial hserial]
  obtain ⟨hne, _⟩ := TypePhrase.read_words h
  obtain ⟨hnone, w, hw, hopen⟩ | ⟨⟨ws, hws, hderived⟩, huncut⟩ := base_read h
  · have hread : TypePhrase.read? t.base = none := by
      unfold TypePhrase.read?
      rw [hnone]
      rfl
    exact iff_of_false (not_keptBy hread) fun hwide => hopen (hwide.uncut w hw)
  by_cases hempty : ws = []
  · have hread : TypePhrase.read? t.base = none := by
      unfold TypePhrase.read?
      rw [hws, hempty]
      rfl
    refine iff_of_false (not_keptBy hread) fun hwide => hne ?_
    have hlength := (hderived.lowers hwide.ends).length_eq
    rw [hempty] at hlength
    exact List.eq_nil_of_length_eq_zero hlength
  have hread : TypePhrase.read? t.base = some ⟨ws, none, []⟩ :=
    (TypePhrase.read_bare t.base_clean.1).mpr ⟨hempty, rfl, rfl, hws⟩
  rw [keptBy_iff h hread]
  rcases TypePhrase.storedWords_cases (τ.words.map TypeWord.folded) with
    hstored | ⟨w, target, hone, hlookup, hstored⟩
  · exact TypePhrase.holds_words_iff hne hderived huncut hstored
  · obtain ⟨w, hwords, rfl⟩ := List.map_eq_singleton_iff.mp hone
    rw [hwords] at hderived
    obtain ⟨q, q', rfl, rfl⟩ := quoted_of_not_serial hserial hws hderived hlookup
    refine iff_of_false ?_ fun hwide => hwide.serial ?_
    · rw [TypePhrase.holds_bare_iff, TypePhrase.columnFamily, hstored]
      rintro ⟨hfamily, _⟩
      obtain ⟨later, hfirst⟩ := TypePhrase.canonical_head hfamily.symm
      exact nomatch (List.cons.inj hfirst).1
    · rw [hwords]
      exact Option.isSome_of_eq_some hlookup

/-- The cast of a declared type keeps every value of its column exactly if the declared name is
    wide. -/
theorem keptBy_cast_iff (h : TypePhrase.read? t.text = some τ) : t.KeptBy t.cast ↔ τ.Wide := by
  cases hserial : serialTarget? t.base with
  | none => exact keptBy_base h hserial
  | some target => exact keptBy_serial h hserial

end SqlType

end RowServe
