import Mathlib.Data.List.Forall2
import RowServe.Proofs.Declaration.TypeNames

/-!
# Families and limits of types

What a cast keeps is a matter of how PostgreSQL reads the names of types: each stands for a family
of types and a limit. Without a modifier most types take more values, but `char` and `bit` then have
one unit; words behind the modifier belong to the type; and a name within double quotes is not the
one in lower case. Two names are compared word by word, and here is which words lower-casing leaves
the same, and which words make the family of a type.

Results:

* `TypeWord.LowersTo.folded_eq_iff`: the words that lower-casing leaves the same.
* `TypePhrase.canonical_append_iff`: the words that make the family of a type with others behind it.
-/

namespace RowServe

open Text (Lowers isBlank lowerChar)

/-! ## Families and limits -/

namespace TypeWord

/-- The word as it is compared: without quotes, ASCII letters have no case. -/
def folded : TypeWord → TypeWord
  | plain cs => plain (cs.map Char.toLower)
  | quoted cs => quoted cs

def chars : TypeWord → List Char
  | plain cs => cs
  | quoted cs => cs

/-- The word without quotes. -/
def of (s : String) : TypeWord := plain s.toList

/-- Lower-casing the word leaves the same name: in quotes it changes nothing, and otherwise nothing
    but ASCII letters. -/
def Steady : TypeWord → Prop
  | plain cs => ∀ c ∈ cs, c.toNat < 128 ∨ lowerChar c = [c]
  | quoted cs => ∀ c ∈ cs, lowerChar c = [c]

instance (w : TypeWord) : Decidable w.Uncut :=
  match w with
  | plain _ => isTrue trivial
  | quoted cs => inferInstanceAs (Decidable ('(' ∉ cs))

instance (w : TypeWord) : Decidable w.Steady :=
  match w with
  | plain cs => List.decidableBAll (fun c : Char => c.toNat < 128 ∨ lowerChar c = [c]) cs
  | quoted cs => List.decidableBAll (fun c : Char => lowerChar c = [c]) cs

end TypeWord

namespace TypePhrase

/-- The serial types, with the integer types that their columns have. -/
def serialTypes : List (String × String) :=
  [("serial", "integer"), ("serial4", "integer"), ("bigserial", "bigint"), ("serial8", "bigint"),
    ("smallserial", "smallint"), ("serial2", "smallint")]

/-- The words of the type that a column has; that of a serial type is an integer type. -/
def storedWords : List TypeWord → List TypeWord
  | [w] =>
    match serialTypes.lookup (String.ofList w.chars) with
    | some target => [.of target]
    | none => [w]
  | ws => ws

/-- The types that may say something about time zones. -/
def zoneTypes : List TypeWord := [.of "timestamp", .of "time"]

/-- What such a type says if it has no time zone, or leaves out. -/
def withoutZone : List TypeWord := [.of "without", .of "time", .of "zone"]

/-- The words without what may be left out. -/
def canonical : List TypeWord → List TypeWord
  | [] => []
  | w :: ws => if w ∈ zoneTypes ∧ ws = withoutZone then [w] else w :: ws

/-- The types whose values have one unit if no modifier says how many. -/
def oneUnit : List (List TypeWord) :=
  [[.of "char"], [.of "character"], [.of "bit"], [.of "nchar"], [.of "national", .of "char"],
    [.of "national", .of "character"]]

/-- The family of a type in a cast. -/
def family (t : TypePhrase) : List TypeWord :=
  canonical (t.words.map TypeWord.folded ++ t.behind.map TypeWord.folded)

/-- The family of the type that a column declared with the name has. -/
def columnFamily (t : TypePhrase) : List TypeWord :=
  canonical (storedWords (t.words.map TypeWord.folded) ++ t.behind.map TypeWord.folded)

/-- The limit of the values of a type, if it has one: the modifier, without spaces and leading
    zeros. -/
def limit (t : TypePhrase) : Option (List Char) :=
  match t.modifier with
  | some inner => some ((inner.filter fun c => !isSpace c).dropWhile (· = '0'))
  | none => if t.words.map TypeWord.folded ∈ oneUnit then some ['1'] else none

/-- A cast to the type keeps all values of a column that is declared with the other name: they are
    of one family, and the cast has no limit or that of the column. -/
def Holds (cast declared : TypePhrase) : Prop :=
  cast.family = declared.columnFamily ∧ (cast.limit = none ∨ cast.limit = declared.limit)

/-- The words are the name of a serial type, in quotes. -/
def QuotedSerial : List TypeWord → Prop
  | [.quoted q] => (serialTypes.lookup (String.ofList q)).isSome = true
  | _ => False

instance : (ws : List TypeWord) → Decidable (QuotedSerial ws)
  | [.quoted q] =>
    inferInstanceAs (Decidable ((serialTypes.lookup (String.ofList q)).isSome = true))
  | [] => isFalse id
  | [.plain _] => isFalse id
  | w :: _ :: _ => isFalse (by cases w <;> exact id)

instance (ws : List TypeWord) : Decidable (Ragged ws) :=
  inferInstanceAs (Decidable (_ = true ∨ _ = true))

/-- The cast that is made of a declared name keeps every value. -/
structure Wide (t : TypePhrase) : Prop where
  /-- Trimming the name takes nothing off a word. -/
  ends : ¬ Ragged t.words
  /-- There is no parenthesis within quotes that would be taken for the modifier. -/
  uncut : ∀ w ∈ t.words, w.Uncut
  /-- Lower-casing leaves the same name. -/
  steady : ∀ w ∈ t.words, w.Steady
  /-- A serial type is not written in quotes. -/
  serial : ¬ QuotedSerial t.words
  /-- Nothing that matters stands behind the modifier. -/
  behind : t.behind = [] ∨ ∃ w ∈ zoneTypes, t.words.map TypeWord.folded = [w] ∧
    t.behind.map TypeWord.folded = withoutZone
  /-- A type of one unit without a modifier has one unit with it. -/
  unit : t.words.map TypeWord.folded ∈ oneUnit → t.limit = some ['1']

instance (t : TypePhrase) : Decidable t.Wide :=
  decidable_of_iff (¬ Ragged t.words ∧ (∀ w ∈ t.words, w.Uncut) ∧ (∀ w ∈ t.words, w.Steady) ∧
      ¬ QuotedSerial t.words ∧
      (t.behind = [] ∨ ∃ w ∈ zoneTypes, t.words.map TypeWord.folded = [w] ∧
        t.behind.map TypeWord.folded = withoutZone) ∧
      (t.words.map TypeWord.folded ∈ oneUnit → t.limit = some ['1']))
    ⟨fun ⟨ends, uncut, steady, serial, behind, unit⟩ => ⟨ends, uncut, steady, serial, behind, unit⟩,
      fun h => ⟨h.ends, h.uncut, h.steady, h.serial, h.behind, h.unit⟩⟩

end TypePhrase

/-- A cast to the type with the name keeps every value of a column of the declared type. -/
def SqlType.KeptBy (t : SqlType) (cast : String) : Prop :=
  ∃ declared target, TypePhrase.read? t.text = some declared ∧ TypePhrase.read? cast = some target ∧
    target.Holds declared

/-! ## Letters -/

theorem toLower_of_not_ascii {c : Char} (h : ¬ c.toNat < 128) : c.toLower = c := by
  have hcapital : ¬ (c.val ≥ 'A'.val ∧ c.val ≤ 'Z'.val) := by
    rintro ⟨_, hle⟩
    exact h (Nat.lt_of_le_of_lt (UInt32.le_iff_toNat_le.mp hle) (by decide))
  exact dif_neg hcapital

theorem toLower_ascii {c : Char} (h : c.toNat < 128) :
    c.toLower.toNat < 128 ∧ c.toLower.toLower = c.toLower ∧ isBlank c.toLower = isBlank c := by
  have htable : ∀ n < 128, (Char.ofNat n).toLower.toNat < 128 ∧
      (Char.ofNat n).toLower.toLower = (Char.ofNat n).toLower ∧
      isBlank (Char.ofNat n).toLower = isBlank (Char.ofNat n) := by
    decide +kernel
  simpa using htable c.toNat h

theorem isBlank_toLower (c : Char) : isBlank c.toLower = isBlank c := by
  by_cases hc : c.toNat < 128
  · exact (toLower_ascii hc).2.2
  · rw [toLower_of_not_ascii hc]

/-- A character of which lower-casing leaves nothing else. -/
theorem lowers_eq_iff {c : Char} {p : List Char} (h : Lowers c p) :
    p = [c] ↔ lowerChar c = [c] := by
  cases h with
  | alone => rfl
  | final => decide +kernel

/-- A character that is the same without regard to the case of ASCII letters. -/
theorem lowers_folded_iff {c : Char} {p : List Char} (h : Lowers c p) :
    p.map Char.toLower = [c.toLower] ↔ c.toNat < 128 ∨ lowerChar c = [c] := by
  constructor
  · intro hmap
    by_contra hno
    obtain ⟨hc, hlower⟩ := not_or.mp hno
    obtain ⟨d, rfl, hd⟩ := List.map_eq_singleton_iff.mp hmap
    rw [toLower_of_not_ascii hc] at hd
    have hd' : ¬ d.toNat < 128 := fun hascii => hc (hd ▸ (toLower_ascii hascii).1)
    rw [toLower_of_not_ascii hd'] at hd
    exact hlower ((lowers_eq_iff h).mp (by rw [hd]))
  · rintro (hc | hlower)
    · rw [h.ascii hc, List.map_singleton, (toLower_ascii hc).2.1]
    · rw [(lowers_eq_iff h).mpr hlower, List.map_singleton]

theorem length_le_flatten {cs : List Char} {ps : List (List Char)}
    (h : List.Forall₂ Lowers cs ps) : cs.length ≤ ps.flatten.length := by
  induction h with
  | nil => exact Nat.le_refl 0
  | cons hp _ ih =>
    have hpos := List.length_pos_iff.mpr hp.ne_nil
    rw [List.flatten_cons, List.length_append, List.length_cons]
    omega

/-- Pieces that are compared by a function on characters: none can make up for another one, since
    none is empty. -/
theorem flatten_map_eq_iff {f : Char → Char} {P : Char → Prop}
    (hP : ∀ {c p}, Lowers c p → (p.map f = [f c] ↔ P c)) {cs : List Char} {ps : List (List Char)}
    (h : List.Forall₂ Lowers cs ps) :
    ps.flatten.map f = cs.map f ↔ ∀ c ∈ cs, P c := by
  induction h with
  | nil => simp
  | @cons c p cs ps hp hps ih =>
    rw [List.flatten_cons, List.map_append, List.map_cons, List.forall_mem_cons, ← hP hp, ← ih]
    constructor
    · intro hmap
      have hlength := congrArg List.length hmap
      have hpos := List.length_pos_iff.mpr hp.ne_nil
      have hrest := length_le_flatten hps
      simp only [List.length_append, List.length_map, List.length_cons] at hlength
      exact List.append_inj (hmap.trans List.singleton_append.symm) (by simp; omega)
    · rintro ⟨hpiece, hrest⟩
      rw [hpiece, hrest, List.singleton_append]

/-! ## Words -/

theorem TypeWord.LowersTo.folded_eq_iff {w w' : TypeWord} (h : w.LowersTo w') :
    w'.folded = w.folded ↔ w.Steady := by
  cases h with
  | plain h =>
    rw [TypeWord.folded, TypeWord.folded, TypeWord.plain.injEq]
    exact flatten_map_eq_iff lowers_folded_iff h
  | quoted h =>
    rw [TypeWord.folded, TypeWord.folded, TypeWord.quoted.injEq]
    have hid := flatten_map_eq_iff (f := id) (P := fun c => lowerChar c = [c])
      (fun hp => by simpa using lowers_eq_iff hp) h
    simpa [TypeWord.Steady] using hid

theorem folded_eq_iff {ws ws' : List TypeWord} (h : List.Forall₂ TypeWord.LowersTo ws ws') :
    ws'.map TypeWord.folded = ws.map TypeWord.folded ↔ ∀ w ∈ ws, w.Steady := by
  induction h with
  | nil => simp
  | cons hw _ ih =>
    rw [List.map_cons, List.map_cons, List.cons.injEq, ih, hw.folded_eq_iff, List.forall_mem_cons]

/-- Words with a blank at one of the ends have it whatever the case of their letters. -/
theorem ragged_folded (ws : List TypeWord) : Ragged (ws.map TypeWord.folded) ↔ Ragged ws := by
  have hstarts (w : TypeWord) : w.folded.startsBlank = w.startsBlank := by
    cases w with
    | quoted cs => rfl
    | plain cs =>
      show (cs.map Char.toLower).head?.any isBlank = cs.head?.any isBlank
      cases cs with
      | nil => rfl
      | cons c cs => exact isBlank_toLower c
  have hends (w : TypeWord) : w.folded.endsBlank = w.endsBlank := by
    cases w with
    | quoted cs => rfl
    | plain cs =>
      show (cs.map Char.toLower).getLast?.any isBlank = cs.getLast?.any isBlank
      rw [List.getLast?_map]
      cases cs.getLast? with
      | none => rfl
      | some c => exact isBlank_toLower c
  unfold Ragged StartsBlank EndsBlank
  rw [List.head?_map, List.getLast?_map, Option.any_map, Option.any_map]
  simp only [hstarts, hends]

theorem not_ragged_of_clean {ws : List TypeWord}
    (h : ∀ w ∈ ws, w.startsBlank = false ∧ w.endsBlank = false) : ¬ Ragged ws := by
  rintro (hstarts | hends)
  · cases hhead : ws.head? with
    | none => simp [StartsBlank, hhead] at hstarts
    | some w => simp [StartsBlank, hhead, (h w (List.mem_of_head? hhead)).1] at hstarts
  · cases hlast : ws.getLast? with
    | none => simp [EndsBlank, hlast] at hends
    | some w => simp [EndsBlank, hlast, (h w (List.mem_of_getLast? hlast)).2] at hends

/-! ## Families -/

namespace TypePhrase

theorem canonical_eq {xs ys : List TypeWord} (h : canonical xs = canonical ys) :
    xs = ys ∨ ∀ y ∈ ys, y ∈ zoneTypes ++ withoutZone := by
  unfold canonical at h
  cases xs with
  | nil =>
    cases ys with
    | nil => exact .inl rfl
    | cons y ys =>
      dsimp only at h
      split_ifs at h
  | cons x xs =>
    cases ys with
    | nil =>
      dsimp only at h
      split_ifs at h
    | cons y ys =>
      dsimp only at h
      split_ifs at h with hx hy hy
      · obtain ⟨rfl, _⟩ := List.cons.inj h
        rw [hx.2, hy.2]
        exact .inl rfl
      · obtain ⟨rfl, rfl⟩ := List.cons.inj h
        refine .inr fun z hz => ?_
        rw [List.mem_singleton.mp hz]
        exact List.mem_append_left _ hx.1
      · refine .inr fun z hz => ?_
        rcases List.mem_cons.mp hz with rfl | hz
        · exact List.mem_append_left _ hy.1
        · exact List.mem_append_right _ (hy.2 ▸ hz)
      · exact .inl h

theorem canonical_head {x : TypeWord} {xs ys : List TypeWord}
    (h : canonical (x :: xs) = canonical ys) : ∃ zs, ys = x :: zs := by
  unfold canonical at h
  cases ys with
  | nil =>
    dsimp only at h
    split_ifs at h
  | cons y ys =>
    dsimp only at h
    split_ifs at h <;> exact ⟨ys, congrArg (· :: ys) (List.cons.inj h).1.symm⟩

/-- As many words make the family of a type with further words behind them exactly if they are the
    same and nothing behind them matters. -/
theorem canonical_append_iff {xs ys behind : List TypeWord} (hlength : xs.length = ys.length)
    (hne : ys ≠ []) :
    canonical xs = canonical (ys ++ behind) ↔
      xs = ys ∧ (behind = [] ∨ ∃ w ∈ zoneTypes, ys = [w] ∧ behind = withoutZone) := by
  obtain ⟨y, ys, rfl⟩ := List.exists_cons_of_ne_nil hne
  cases xs with
  | nil => contradiction
  | cons x xs =>
    have htails : xs.length = ys.length := by simpa using hlength
    constructor
    · intro h
      unfold canonical at h
      rw [List.cons_append] at h
      dsimp only at h
      split_ifs at h with hx hy hy
      · obtain ⟨rfl, _⟩ := List.cons.inj h
        have hrest := hx.2.trans hy.2.symm
        have hbehind := congrArg List.length hrest
        simp only [List.length_append] at hbehind
        obtain rfl := List.eq_nil_of_length_eq_zero (by omega : behind.length = 0)
        exact ⟨by rw [hrest, List.append_nil], .inl rfl⟩
      · have hempty := (List.cons.inj h).2
        obtain ⟨rfl, _⟩ := List.append_eq_nil_iff.mp hempty.symm
        rw [hx.2] at htails
        contradiction
      · obtain ⟨rfl, rfl⟩ := List.cons.inj h
        obtain rfl := List.eq_nil_of_length_eq_zero htails.symm
        exact ⟨rfl, .inr ⟨x, hy.1, rfl, hy.2⟩⟩
      · obtain ⟨rfl, hrest⟩ := List.cons.inj h
        have hbehind := congrArg List.length hrest
        simp only [List.length_append] at hbehind
        obtain rfl := List.eq_nil_of_length_eq_zero (by omega : behind.length = 0)
        exact ⟨by rw [hrest, List.append_nil], .inl rfl⟩
    · rintro ⟨hsame, hbehind⟩
      rw [hsame]
      rcases hbehind with rfl | ⟨w, hw, hone, rfl⟩
      · rw [List.append_nil]
      · have hleft : ∀ w ∈ zoneTypes, canonical [w] = canonical ([w] ++ withoutZone) := by decide
        rw [hone]
        exact hleft w hw

end TypePhrase

end RowServe
