import Mathlib.Data.Nat.Digits.Defs
import Mathlib.Data.List.Induction
import Mathlib.Tactic.IntervalCases
import RowServe.Proofs.Contract.Pages
import RowServe.Proofs.Contract.Values
import RowServe.Proofs.Declaration.Plain
import RowServe.Proofs.Resource.Parts
import RowServe.Proofs.Results
import RowServe.Proofs.Sql.Tokens
import RowServe.Proofs.Text.Trim

/-!
# Integers that are sent

An integer is sent as a number, whole or with a fraction of zero, or as its decimal text. What
a value stands for is said here without the way it is read; then it is compared with what is
made of it: as the value of a field, as an item of a list, and as the page or the limit of a
list request.

Results:

* `integer?_eq_some_iff`: the texts that are read, and the integer each of them is read as.
* `toInteger_of_oversized`: a number beyond 64 bits is read as the nearest integer there is.
* `integers_exact_iff`: everywhere a value is read as the integer it stands for, and refused
  if there is none of 64 bits, except for the numbers beyond 64 bits.
-/

namespace RowServe

namespace Number

/-- Decimal digits, at least one. -/
def IsDecimal (cs : List Char) : Prop := cs ≠ [] ∧ ∀ c ∈ cs, c.isDigit = true

/-- The number that decimal digits write; the last of them counts ones. -/
def decimal (cs : List Char) : Nat := Nat.ofDigits 10 (cs.reverse.map fun c => c.toNat - 48)

/-- The integer that decimal digits write, with a sign before them or not. -/
inductive Numeral : List Char → Int → Prop where
  | bare {cs} (h : IsDecimal cs) : Numeral cs (decimal cs)
  | plus {cs} (h : IsDecimal cs) : Numeral ('+' :: cs) (decimal cs)
  | minus {cs} (h : IsDecimal cs) : Numeral ('-' :: cs) (-decimal cs)

/-- The integer that a text writes, with blanks around it or not. -/
def Writes (s : String) (i : Int) : Prop :=
  ∃ front cs back, s.toList = front ++ cs ++ back ∧ (∀ c ∈ front, Text.isBlank c = true) ∧
    (∀ c ∈ back, Text.isBlank c = true) ∧ Numeral cs i

theorem ofDigits_digits (cs : List Char) :
    Literal.ofDigits (cs.map fun c => c.toNat - 48) = decimal cs := by
  rw [decimal, Nat.ofDigits_eq_foldr, List.map_reverse, List.foldr_reverse, Literal.ofDigits]
  congr 1
  funext n d
  rw [Nat.add_comm, Nat.mul_comm]
  rfl

theorem isBlank_digit {c : Char} (h : c.isDigit = true) : Text.isBlank c = false := by
  simp only [Char.isDigit, Bool.and_eq_true, decide_eq_true_eq] at h
  have hlow : 48 ≤ c.toNat := h.1
  have hhigh : c.toNat ≤ 57 := h.2
  unfold Text.isBlank Text.inRanges
  generalize c.toNat = n at hlow hhigh
  interval_cases n <;> rfl

theorem Numeral.not_blank {cs : List Char} {i : Int} (h : Numeral cs i) :
    cs ≠ [] ∧ ∀ c ∈ cs, Text.isBlank c = false := by
  have hdigits {cs : List Char} (h : IsDecimal cs) : ∀ c ∈ cs, Text.isBlank c = false :=
    fun c hc => isBlank_digit (h.2 c hc)
  cases h with
  | bare h => exact ⟨h.1, hdigits h⟩
  | plus h => exact ⟨List.cons_ne_nil _ _, List.forall_mem_cons.mpr ⟨by decide, hdigits h⟩⟩
  | minus h => exact ⟨List.cons_ne_nil _ _, List.forall_mem_cons.mpr ⟨by decide, hdigits h⟩⟩

/-- A numeral has no blanks at its ends. -/
theorem Numeral.ends {cs : List Char} {i : Int} (h : Numeral cs i) :
    (∀ c, cs.head? = some c → Text.isBlank c = false) ∧
      ∀ c, cs.getLast? = some c → Text.isBlank c = false :=
  ⟨fun c hc => h.not_blank.2 c (List.mem_of_head? hc),
    fun c hc => h.not_blank.2 c (List.mem_of_getLast? hc)⟩

/-- The sign and the digits that are split off a numeral. -/
theorem numeral_iff (cs : List Char) (i : Int) :
    Numeral cs i ↔ IsDecimal (splitSign cs).2 ∧
      i = if (splitSign cs).1 then -(decimal (splitSign cs).2 : Int)
        else decimal (splitSign cs).2 := by
  constructor
  · intro h
    cases h with
    | bare h =>
      obtain ⟨c, cs, rfl⟩ := List.exists_cons_of_ne_nil h.1
      have hc := h.2 c List.mem_cons_self
      have hsplit : splitSign (c :: cs) = (false, c :: cs) := by
        unfold splitSign
        split
        · simp_all
        · simp_all
        · rfl
      rw [hsplit]
      exact ⟨h, rfl⟩
    | plus h => exact ⟨h, rfl⟩
    | minus h => exact ⟨h, rfl⟩
  · rintro ⟨h, rfl⟩
    unfold splitSign at h ⊢
    split at h
    · exact .minus h
    · exact .plus h
    · exact .bare h

theorem digits?_eq_some_iff (cs : List Char) (d : Nat) (ds : List Nat) :
    digits? cs = some (d :: ds) ↔ IsDecimal cs ∧ cs.map (fun c => c.toNat - 48) = d :: ds := by
  unfold digits? IsDecimal
  rw [Option.ite_none_right_eq_some, List.all_eq_true, Option.some.injEq, and_assoc]
  refine ⟨fun ⟨h, hmap⟩ => ⟨?_, h, hmap⟩, fun ⟨_, h, hmap⟩ => ⟨h, hmap⟩⟩
  rintro rfl
  exact List.cons_ne_nil d ds hmap.symm

theorem integer?_numeral (s : String) (i : Int) :
    integer? s = some i ↔ Numeral (Text.trimList s.toList) i ∧ isSigned64 i = true := by
  unfold integer?
  rw [numeral_iff]
  generalize splitSign (Text.trimList s.toList) = split
  obtain ⟨negative, cs⟩ := split
  dsimp only
  constructor
  · intro h
    split at h
    · rename_i d ds hdigits
      obtain ⟨hdecimal, hmap⟩ := (digits?_eq_some_iff cs d ds).mp hdigits
      rw [← hmap, ofDigits_digits, signed64?, Option.ite_none_right_eq_some] at h
      rw [← Option.some.inj h.2]
      exact ⟨⟨hdecimal, rfl⟩, h.1⟩
    · contradiction
  · rintro ⟨⟨hdecimal, rfl⟩, hrange⟩
    obtain ⟨c, rest, rfl⟩ := List.exists_cons_of_ne_nil hdecimal.1
    have hvalue : Literal.ofDigits ((c.toNat - 48) :: rest.map fun c => c.toNat - 48) =
        decimal (c :: rest) := ofDigits_digits (c :: rest)
    rw [(digits?_eq_some_iff _ _ _).mpr ⟨hdecimal, rfl⟩]
    dsimp only
    rw [hvalue, signed64?, if_pos hrange]

/-- The text of an integer is read as this integer, provided it has 64 bits with a sign; no
    other text is read. -/
theorem integer?_eq_some_iff (s : String) (i : Int) :
    integer? s = some i ↔ Writes s i ∧ isSigned64 i = true := by
  rw [integer?_numeral]
  refine and_congr_left fun _ => ⟨fun h => ?_, ?_⟩
  · obtain ⟨front, back, hsplit, hfront, hback⟩ := Text.trimList_split s.toList
    exact ⟨front, _, back, hsplit, hfront, hback, h⟩
  · rintro ⟨front, cs, back, hsplit, hfront, hback, h⟩
    rw [hsplit, Text.trimList_between hfront h.ends.1 h.ends.2 hback]
    exact h

end Number

/-! ## Values -/

theorem Binary64.unitsPerOne_pos : 0 < unitsPerOne := by
  unfold unitsPerOne
  generalize 1074 = k
  exact Nat.two_pow_pos k

theorem Binary64.toInt?_eq_some_iff (x : Binary64) (i : Int) :
    x.toInt? = some i ↔ x.scaled = i * unitsPerOne := by
  have hne : (unitsPerOne : Int) ≠ 0 := Int.natCast_ne_zero.mpr unitsPerOne_pos.ne'
  unfold toInt?
  rw [Option.ite_none_right_eq_some, Option.some.injEq]
  constructor
  · rintro ⟨hzero, rfl⟩
    exact (Int.ediv_mul_cancel (Int.dvd_of_emod_eq_zero hzero)).symm
  · intro h
    rw [h]
    exact ⟨Int.mul_emod_left _ _, Int.mul_ediv_cancel _ hne⟩

namespace Json

/-- The integer that a value stands for: the one that a number is equal to, or the one that a
    text writes. A binary64 number is compared in its own units, without rounding. -/
inductive Counts : Json → Int → Prop where
  | integer (i : Int) : Counts (.num (.int i)) i
  | whole {x : Binary64} {i : Int} (h : x.scaled = i * Binary64.unitsPerOne) :
    Counts (.num (.float x)) i
  | text {s : String} {i : Int} (h : Number.Writes s i) : Counts (.str s) i

/-- The integer that a value stands for has 64 bits with its sign. -/
def Within (v : Json) (i : Int) : Prop := v.Counts i ∧ Number.isSigned64 i = true

/-- A number that is equal to an integer beyond 64 bits. -/
def Oversized (v : Json) : Prop := ∃ n i, v = .num n ∧ v.Counts i ∧ ¬ Number.isSigned64 i = true

/-- A number is equal to one integer at most. -/
theorem Counts.unique {n : Number} {i j : Int} (hi : Counts (.num n) i) (hj : Counts (.num n) j) :
    i = j := by
  cases hi with
  | integer => cases hj; rfl
  | whole hi =>
    cases hj with
    | whole hj =>
      rw [← Binary64.toInt?_eq_some_iff] at hi hj
      exact Option.some.inj (hi.symm.trans hj)

theorem Within.not_oversized {v : Json} {i : Int} (h : v.Within i) : ¬ v.Oversized := by
  rintro ⟨n, j, rfl, hj, hrange⟩
  rw [← h.1.unique hj] at hrange
  exact hrange h.2

end Json

namespace Convert

/-- The message for what is no integer. -/
def notInteger : String := "Not a valid integer."

theorem clampSigned64_of_isSigned64 {i : Int} (h : Number.isSigned64 i = true) :
    clampSigned64 i = i := by
  rw [Number.isSigned64_iff] at h
  unfold clampSigned64
  omega

theorem toInteger_num (n : Number) (j : Int) :
    toInteger (.num n) = some j ↔ ∃ i, Json.Counts (.num n) i ∧ clampSigned64 i = j := by
  constructor
  · intro h
    cases n with
    | int i => exact ⟨i, .integer i, Option.some.inj h⟩
    | float x =>
      obtain ⟨i, hi, hclamp⟩ := Option.map_eq_some_iff.mp h
      exact ⟨i, .whole ((x.toInt?_eq_some_iff i).mp hi), hclamp⟩
  · rintro ⟨i, hi, rfl⟩
    cases hi with
    | integer => rfl
    | whole h => exact Option.map_eq_some_iff.mpr ⟨i, (Binary64.toInt?_eq_some_iff _ i).mpr h, rfl⟩

/-- An integer of 64 bits is read as it is. -/
theorem toInteger_of_within {v : Json} {i : Int} (h : v.Within i) : toInteger v = some i := by
  obtain ⟨hcounts, hrange⟩ := h
  cases v with
  | num n => exact (toInteger_num n i).mpr ⟨i, hcounts, clampSigned64_of_isSigned64 hrange⟩
  | str s =>
    cases hcounts with
    | text hwrites => exact (Number.integer?_eq_some_iff s i).mpr ⟨hwrites, hrange⟩
  | _ => cases hcounts

/-- A number beyond 64 bits is read as the nearest integer there is. -/
theorem toInteger_of_oversized {v : Json} (h : v.Oversized) :
    ∃ i, v.Counts i ∧ toInteger v = some (clampSigned64 i) := by
  obtain ⟨n, i, rfl, hcounts, _⟩ := h
  exact ⟨i, hcounts, (toInteger_num n _).mpr ⟨i, hcounts, rfl⟩⟩

/-- What is read of another value than an oversized number is the integer it stands for. -/
theorem within_of_toInteger {v : Json} {i : Int} (hsize : ¬ v.Oversized)
    (h : toInteger v = some i) : v.Within i := by
  cases v with
  | num n =>
    obtain ⟨j, hcounts, rfl⟩ := (toInteger_num n i).mp h
    by_cases hrange : Number.isSigned64 j = true
    · rw [clampSigned64_of_isSigned64 hrange]
      exact ⟨hcounts, hrange⟩
    · exact absurd ⟨n, j, rfl, hcounts, hrange⟩ hsize
  | str s =>
    obtain ⟨hwrites, hrange⟩ := (Number.integer?_eq_some_iff s i).mp h
    exact ⟨.text hwrites, hrange⟩
  | _ => contradiction

theorem toInteger_of_none {v : Json} (hsize : ¬ v.Oversized) (h : ∀ i, ¬ v.Within i) :
    toInteger v = none := by
  rw [Option.eq_none_iff_forall_ne_some]
  exact fun i hread => h i (within_of_toInteger hsize hread)

/-- What is made of a value as an integer: its integer of 64 bits is taken, and a value without
    one is refused. -/
structure ReadExactly (v : Json) (taken : Int → β) (refused result : β) : Prop where
  taken : ∀ i, v.Within i → result = taken i
  refused : (∀ i, ¬ v.Within i) → result = refused

/-- A value is read exactly if it is not oversized, wherever taking is different from refusing. -/
theorem readExactly_iff {v : Json} {taken : Int → β} {refused : β}
    (hne : ∀ i, taken i ≠ refused) :
    ReadExactly v taken refused ((toInteger v).elim refused taken) ↔ ¬ v.Oversized := by
  constructor
  · intro h hsize
    obtain ⟨i, _, hread⟩ := toInteger_of_oversized hsize
    have hrefused := h.refused fun i hi => hi.not_oversized hsize
    rw [hread] at hrefused
    exact hne _ hrefused
  · intro hsize
    exact ⟨fun i hi => by rw [toInteger_of_within hi]; rfl,
      fun hnone => by rw [toInteger_of_none hsize hnone]; rfl⟩

end Convert

/-! ## Rules on numbers -/

namespace ValidationRule

/-- What a rule finds wrong with a number starts with the same words. -/
theorem violations_num {r : ValidationRule} {pattern : Option Pattern} {n : Number} {m : String}
    (h : m ∈ r.violations pattern (.num n)) : "Must be ".toList <+: m.toList := by
  have hwords (rest : String) {head : String} (hhead : "Must be ".toList <+: head.toList) :
      "Must be ".toList <+: (head ++ rest ++ ".").toList := by
    rw [String.toList_append, String.toList_append, List.append_assoc]
    exact hhead.trans (List.prefix_append _ _)
  obtain ⟨part, hpart, rfl⟩ := List.mem_filterMap.mp h
  simp only [List.mem_cons, List.not_mem_nil, or_false] at hpart
  have hnothing {α : Type} {part : Option α} {violation : α → Option String}
      (hnone : ∀ x, violation x = none) : some m ≠ part.bind violation := by
    intro hsome
    obtain ⟨x, _, hx⟩ := Option.bind_eq_some_iff.mp hsome.symm
    rw [hnone x] at hx
    contradiction
  rcases hpart with hformat | hlong | hshort | hpattern | hallowed | hleast | hgreatest | hblank
  · exact absurd hformat (hnothing fun _ => rfl)
  · exact absurd hlong (hnothing fun _ => rfl)
  · exact absurd hshort (hnothing fun _ => rfl)
  · exact absurd hpattern (hnothing fun _ => rfl)
  · obtain ⟨allowed, _, hallowed⟩ := Option.bind_eq_some_iff.mp hallowed.symm
    unfold allowedViolation at hallowed
    split_ifs at hallowed
    rw [← Option.some.inj hallowed]
    exact hwords _ (by decide)
  · obtain ⟨min, _, hmin⟩ := Option.bind_eq_some_iff.mp hleast.symm
    simp only [minimumViolation] at hmin
    split_ifs at hmin
    rw [← Option.some.inj hmin]
    exact hwords _ (by decide)
  · obtain ⟨max, _, hmax⟩ := Option.bind_eq_some_iff.mp hgreatest.symm
    simp only [maximumViolation] at hmax
    split_ifs at hmax
    rw [← Option.some.inj hmax]
    exact hwords _ (by decide)
  · rw [if_neg fun h => Bool.false_ne_true h.2] at hblank
    contradiction

end ValidationRule

open RowServe.Convert

namespace Contract

theorem obeying_integer_ne (s : FieldSpec) (i : Int) :
    obeying s (.ok (.ofInt i)) ≠ .error (refuse notInteger) := by
  intro h
  unfold obeying at h
  dsimp only at h
  split at h
  · contradiction
  · have htexts : s.rule.violations s.pattern (.ofInt i) = [notInteger] :=
      FieldError.messages.inj (Except.error.inj h)
    have hwords := ValidationRule.violations_num (htexts ▸ List.mem_singleton_self notInteger)
    revert hwords
    decide

/-! ## Fields -/

/-- A value that a field takes as an integer. -/
def AsInteger (s : FieldSpec) : Shape → Json → Prop
  | .plain, _ => s.valueType = .integer
  | .link, _ => s.valueType = .integer
  | .lookup _ _, raw => s.valueType = .integer ∧ ∀ entries, raw ≠ .obj entries
  | .links acceptScalar, raw =>
    acceptScalar = true ∧ s.items.getD .integer = .integer ∧ ∀ items, raw ≠ .arr items
  | .nested _ _, _ => False

/-- A value that a field takes as a list of integers, with its items. -/
def AsIntegers (s : FieldSpec) : Shape → Json → List Json → Prop
  | .plain, raw, items => s.valueType = .list ∧ s.items = some .integer ∧ toList raw = some items
  | .link, raw, items => s.valueType = .list ∧ s.items = some .integer ∧ toList raw = some items
  | .lookup _ _, raw, items =>
    s.valueType = .list ∧ s.items = some .integer ∧ toList raw = some items
  | .links _, raw, items => s.items.getD .integer = .integer ∧ raw = .arr items
  | .nested _ _, _, _ => False

theorem checkPlain_integer {s : FieldSpec} (h : s.valueType = .integer) (raw : Json) :
    checkPlain s raw = obeying s (toType .integer raw) := by
  unfold checkPlain convert
  rw [h]

theorem checkPlain_integers {s : FieldSpec} {raw : Json} {items : List Json}
    (h : s.valueType = .list ∧ s.items = some .integer ∧ toList raw = some items) :
    checkPlain s raw = obeying s (convert .list (some .integer) (.arr items)) := by
  obtain ⟨htype, hitems, hlist⟩ := h
  unfold checkPlain convert
  rw [htype, hitems]
  dsimp only
  rw [hlist]
  rfl

theorem checkValue_integer {s : FieldSpec} {shape : Shape} {raw : Json}
    (h : AsInteger s shape raw) : checkValue s shape raw = obeying s (toType .integer raw) := by
  cases shape with
  | plain | link => simpa only [checkValue] using checkPlain_integer h raw
  | lookup complete fields =>
    obtain ⟨htype, hobj⟩ := h
    rw [← checkPlain_integer htype raw]
    cases raw with
    | obj entries => exact absurd rfl (hobj entries)
    | _ => simp only [checkValue]
  | links acceptScalar =>
    obtain ⟨rfl, hitems, harr⟩ := h
    cases raw with
    | arr items => exact absurd rfl (harr items)
    | _ =>
      simp only [checkValue, checkLinks, hitems, if_pos]
      rfl
  | nested complete fields => exact h.elim

theorem checkValue_integers {s : FieldSpec} {shape : Shape} {raw : Json} {items : List Json}
    (h : AsIntegers s shape raw items) :
    checkValue s shape raw = obeying s (convert .list (some .integer) (.arr items)) := by
  cases shape with
  | plain | link => simpa only [checkValue] using checkPlain_integers h
  | lookup complete fields =>
    rw [← checkPlain_integers h]
    cases raw with
    | obj entries => exact absurd h.2.2 (by simp [toList])
    | _ => simp only [checkValue]
  | links acceptScalar =>
    obtain ⟨hitems, rfl⟩ := h
    rw [checkValue, checkLinks, hitems]
  | nested complete fields => exact h.elim

theorem obeying_toType_integer (s : FieldSpec) (raw : Json) :
    obeying s (toType .integer raw) =
      (toInteger raw).elim (.error (refuse notInteger)) fun i => obeying s (.ok (.ofInt i)) := by
  rw [toType]
  cases toInteger raw with
  | none => rfl
  | some i => rfl

/-! ## Items -/

end Contract

namespace Convert

/-- The last item is converted after the others. -/
theorem toItems_concat (t : ValueType) (items : List Json) (v : Json) :
    toItems t (items ++ [v]) =
      match toType t v with
      | .ok w => ((toItems t items).1, (toItems t items).2 ++ [w])
      | .error e => ((toItems t items).1.add items.length.repr e, (toItems t items).2) := by
  unfold toItems
  rw [List.zipIdx_append, List.foldl_append, Nat.zero_add]
  rfl

/-- The place of an item that is no integer. -/
def FailsAt (items : List Json) (k : String) : Prop :=
  ∃ (n : Nat) (v : Json), items[n]? = some v ∧ toInteger v = none ∧ k = n.repr

theorem failsAt_concat (items : List Json) (v : Json) (k : String) :
    FailsAt (items ++ [v]) k ↔
      FailsAt items k ∨ (toInteger v = none ∧ k = items.length.repr) := by
  constructor
  · rintro ⟨n, w, hn, hread, rfl⟩
    rcases Nat.lt_or_ge n items.length with hlt | hge
    · rw [List.getElem?_append_left hlt] at hn
      exact .inl ⟨n, w, hn, hread, rfl⟩
    · rw [List.getElem?_append_right hge] at hn
      obtain ⟨hlt, rfl⟩ := List.getElem?_eq_some_iff.mp hn
      have hn : n = items.length := by
        have hzero := List.length_singleton ▸ hlt
        omega
      exact .inr ⟨by simpa using hread, by rw [hn]⟩
  · rintro (⟨n, w, hn, hread, rfl⟩ | ⟨hread, rfl⟩)
    · have hlt := (List.getElem?_eq_some_iff.mp hn).1
      exact ⟨n, w, by rw [List.getElem?_append_left hlt, hn], hread, rfl⟩
    · exact ⟨items.length, v, by simp, hread, rfl⟩

theorem not_failsAt_length (items : List Json) : ¬ FailsAt items items.length.repr := by
  rintro ⟨n, v, hn, _, hk⟩
  rw [← Sql.repr_inj hk, List.getElem?_eq_none (Nat.le_refl _)] at hn
  contradiction

/-- The integers among the items are kept in order. -/
theorem values_toItems (items : List Json) :
    (toItems .integer items).2 = (items.filterMap toInteger).map Json.ofInt := by
  induction items using List.reverseRecOn with
  | nil => rfl
  | append_singleton items v ih =>
    rw [toItems_concat, toType, List.filterMap_append, List.map_append]
    cases hread : toInteger v with
    | some i => simp [orRefuse, ih, hread]
    | none => simp [orRefuse, ih, hread]

/-- Under the place of every item that is no integer stands the message, and nothing else is
    wrong. -/
theorem errors_toItems (items : List Json) (k : String) (e : FieldError) :
    Keyed.find? k (toItems .integer items).1 = some e ↔
      e = refuse notInteger ∧ FailsAt items k := by
  induction items using List.reverseRecOn generalizing k e with
  | nil =>
    refine ⟨fun h => by contradiction, ?_⟩
    rintro ⟨_, n, v, hn, _⟩
    contradiction
  | append_singleton items v ih =>
    have hlast : Keyed.find? items.length.repr (toItems .integer items).1 = none := by
      rw [Option.eq_none_iff_forall_ne_some]
      exact fun e he => not_failsAt_length items ((ih _ e).mp he).2
    rw [failsAt_concat, toItems_concat, toType]
    cases hread : toInteger v with
    | some i => simpa [orRefuse] using ih k e
    | none =>
      have hpush : (toItems .integer items).1.add items.length.repr (refuse notInteger) =
          Keyed.insert items.length.repr (refuse notInteger) (toItems .integer items).1 := by
        unfold FieldErrors.add refuse FieldErrors.pushAll
        dsimp only [List.foldl_cons, List.foldl_nil]
        rw [FieldErrors.push, hlast]
      refine (Eq.congr_left (congrArg (Keyed.find? k) hpush)).trans ?_
      rw [Keyed.find?_insert]
      split_ifs with hk
      · simp [hk, eq_comm]
      · simpa [hk] using ih k e

theorem convert_items (items : List Json) :
    convert .list (some .integer) (.arr items) =
      if (toItems .integer items).1 = [] then .ok (.arr (toItems .integer items).2)
      else .error (.nested (toItems .integer items).1) := by
  unfold convert
  dsimp only [toList]
  split
  · rename_i hitems
    rw [hitems]
    rfl
  · rename_i hne hitems
    rw [hitems]
    exact (if_neg hne).symm

end Convert

namespace Contract

/-- What is made of a list of integers: each is taken as it is, in order, and every item that
    is none of 64 bits has its message. -/
structure ItemsReadExactly (s : FieldSpec) (items : List Json) (result : Except FieldError Json) :
    Prop where
  taken : ∀ ints, List.Forall₂ Json.Within items ints →
    result = obeying s (.ok (.arr (ints.map Json.ofInt)))
  refused : ∀ (n : Nat) v, items[n]? = some v → (∀ i, ¬ v.Within i) →
    ∃ errors, result = .error (.nested errors) ∧
      Keyed.find? n.repr errors = some (refuse notInteger)

theorem toItems_of_within {items : List Json} {ints : List Int}
    (h : List.Forall₂ Json.Within items ints) : items.filterMap toInteger = ints := by
  induction h with
  | nil => rfl
  | cons hv _ ih => rw [List.filterMap_cons, toInteger_of_within hv, ih]

theorem itemsReadExactly_iff (s : FieldSpec) (items : List Json) :
    ItemsReadExactly s items (obeying s (convert .list (some .integer) (.arr items))) ↔
      ∀ v ∈ items, ¬ v.Oversized := by
  rw [convert_items]
  constructor
  · intro h v hv hsize
    obtain ⟨n, hn⟩ := List.mem_iff_getElem?.mp hv
    obtain ⟨i, _, hread⟩ := toInteger_of_oversized hsize
    obtain ⟨errors, hresult, hplace⟩ := h.refused n v hn fun i hi => hi.not_oversized hsize
    split_ifs at hresult with hnil
    · unfold obeying at hresult
      dsimp only at hresult
      split at hresult
      · contradiction
      · cases Except.error.inj hresult
    · obtain rfl : (toItems .integer items).1 = errors :=
        FieldError.nested.inj (Except.error.inj hresult)
      obtain ⟨m, w, hm, hfails, hmn⟩ := ((errors_toItems items _ _).mp hplace).2
      rw [Sql.repr_inj hmn, hm] at hn
      rw [Option.some.inj hn, hread] at hfails
      contradiction
  · intro hsize
    refine ⟨fun ints hints => ?_, fun n v hn hnone => ?_⟩
    · have hnil : (toItems .integer items).1 = [] := Keyed.eq_nil_of_has fun k hk => by
        obtain ⟨e, he⟩ := Option.isSome_iff_exists.mp hk
        obtain ⟨_, n, v, hn, hread, _⟩ := (errors_toItems items k e).mp he
        obtain ⟨i, _, hi⟩ := partner_of_mem hints.flip (List.mem_of_getElem? hn)
        rw [toInteger_of_within hi] at hread
        contradiction
      rw [if_pos hnil, values_toItems, toItems_of_within hints]
    · have hread : toInteger v = none :=
        toInteger_of_none (hsize v (List.mem_of_getElem? hn)) hnone
      have hplace := (errors_toItems items n.repr _).mpr ⟨rfl, n, v, hn, hread, rfl⟩
      have hne : (toItems .integer items).1 ≠ [] := fun hnil => by
        rw [hnil] at hplace
        contradiction
      rw [if_neg hne]
      exact ⟨_, rfl, hplace⟩

end Contract

/-! ## Pages and limits -/

namespace PaginationContract

variable {c : PaginationContract} {query : Object}

/-- What is made of a parameter of a list request: the page that is given agrees with its
    integer, and a parameter without one of 64 bits is refused. -/
structure ParameterReadExactly (c : PaginationContract) (query : Object) (key : String) (v : Json)
    (Agrees : PageSpec → Int → Prop) : Prop where
  taken : ∀ page, (c.validate query).1 = .ok page → ∃ i, v.Within i ∧ Agrees page i
  refused : (∀ i, ¬ v.Within i) →
    ∃ errors, (c.validate query).1 = .error errors ∧ errors.Says key notInteger

theorem parameterReadExactly_iff {key : String} {v : Json} {Agrees : PageSpec → Int → Prop}
    (hgiven : ∀ page, (c.validate query).1 = .ok page → ∃ i, toInteger v = some i ∧ Agrees page i)
    (hrefused : (∃ errors, (c.validate query).1 = .error errors ∧ errors.Says key notInteger) ↔
      toInteger v = none) :
    ParameterReadExactly c query key v Agrees ↔ ¬ v.Oversized := by
  constructor
  · intro h hsize
    obtain ⟨i, _, hread⟩ := toInteger_of_oversized hsize
    have hnone := hrefused.mp (h.refused fun i hi => hi.not_oversized hsize)
    rw [hread] at hnone
    contradiction
  · intro hsize
    refine ⟨fun page hpage => ?_, fun hnone => hrefused.mpr (toInteger_of_none hsize hnone)⟩
    obtain ⟨i, hread, hagrees⟩ := hgiven page hpage
    exact ⟨i, within_of_toInteger hsize hread, hagrees⟩

variable {raw v : Json}

theorem pageOf_sent (hv : lastValue raw = some v) :
    pageOf (some raw) = match toInteger v with
      | some n =>
        if 1 ≤ n then (.empty, n.toNat)
        else (.single "page" "Must be greater than or equal to 1.", 1)
      | none => (.single "page" notInteger, 1) := by
  unfold pageOf
  dsimp only
  rw [hv]
  rfl

theorem limitOf_sent (hv : lastValue raw = some v) :
    limitOf (some raw) = match toInteger v with
      | some n =>
        if 0 < n then (.empty, min n.toNat maxLimit)
        else (.single "limit" "Must be greater than 0.", defaultLimit)
      | none => (.single "limit" notInteger, defaultLimit) := by
  unfold limitOf
  dsimp only
  rw [hv]
  rfl

theorem says_single (field message m : String) :
    (FieldErrors.single field message).Says field m ↔ m = message := by
  unfold FieldErrors.single
  rw [FieldErrors.says_push_iff]
  simp [FieldErrors.Says]

/-- The number of the page is read exactly if it is not oversized. -/
theorem page_exact_iff (hraw : query.find? "page" = some raw) (hv : lastValue raw = some v) :
    ParameterReadExactly c query "page" v (fun page i => (page.page : Int) = i) ↔
      ¬ v.Oversized := by
  have hpage := pageOf_sent hv
  refine parameterReadExactly_iff (fun page h => ?_) ?_
  · obtain ⟨rfl, _, hnil, _⟩ := (validate_ok_iff c query page).mp h
    unfold asked
    rw [hraw, hpage] at hnil ⊢
    cases hread : toInteger v with
    | none =>
      rw [hread] at hnil
      contradiction
    | some n =>
      rw [hread] at hnil
      dsimp only at hnil ⊢
      split_ifs at hnil ⊢ with hpos
      · exact ⟨n, rfl, Int.toNat_of_nonneg (by omega)⟩
      · contradiction
  · rw [says_page_iff c query (by decide), hraw, hpage]
    cases toInteger v with
    | none => simp [says_single]
    | some n =>
      dsimp only
      split_ifs
      · simp [FieldErrors.Says, FieldErrors.empty]
      · simp [says_single, notInteger]

/-- The limit is read exactly, up to the greatest one, if it is not oversized. -/
theorem limit_exact_iff (hraw : query.find? "limit" = some raw) (hv : lastValue raw = some v) :
    ParameterReadExactly c query "limit" v
        (fun page i => 0 < i ∧ (page.limit : Int) = min i maxLimit) ↔
      ¬ v.Oversized := by
  have hlimit := limitOf_sent hv
  refine parameterReadExactly_iff (fun page h => ?_) ?_
  · obtain ⟨rfl, _, _, hnil, _⟩ := (validate_ok_iff c query page).mp h
    unfold asked
    rw [hraw, hlimit] at hnil ⊢
    cases hread : toInteger v with
    | none =>
      rw [hread] at hnil
      contradiction
    | some n =>
      rw [hread] at hnil
      dsimp only at hnil ⊢
      split_ifs at hnil ⊢ with hpos
      · exact ⟨n, rfl, hpos, by dsimp only; omega⟩
      · contradiction
  · rw [says_limit_iff, hraw, hlimit]
    cases toInteger v with
    | none => simp [says_single]
    | some n =>
      dsimp only
      split_ifs
      · simp [FieldErrors.Says, FieldErrors.empty]
      · simp [says_single, notInteger]

end PaginationContract

namespace Contract

/-- As the value of a field, as an item of a list, and as the page or the limit of a list
    request a value is read as the integer it stands for, and refused if that has not 64 bits,
    exactly if it is no number beyond them. -/
theorem integers_exact_iff (raw : Json) (s : FieldSpec) (shape : Shape) (c : PaginationContract)
    (query : Object) :
    (AsInteger s shape raw →
      (ReadExactly raw (fun i => obeying s (.ok (.ofInt i))) (.error (refuse notInteger))
        (checkValue s shape raw) ↔ ¬ raw.Oversized)) ∧
    (∀ items, AsIntegers s shape raw items →
      (ItemsReadExactly s items (checkValue s shape raw) ↔ ∀ v ∈ items, ¬ v.Oversized)) ∧
    ∀ v, lastValue raw = some v →
      (query.find? "page" = some raw →
        (c.ParameterReadExactly query "page" v (fun page i => (page.page : Int) = i) ↔
          ¬ v.Oversized)) ∧
      (query.find? "limit" = some raw →
        (c.ParameterReadExactly query "limit" v
            (fun page i => 0 < i ∧ (page.limit : Int) = min i PaginationContract.maxLimit) ↔
          ¬ v.Oversized)) := by
  refine ⟨fun h => ?_, fun items h => ?_, fun v hv => ⟨fun hraw => ?_, fun hraw => ?_⟩⟩
  · rw [checkValue_integer h, obeying_toType_integer]
    exact readExactly_iff (obeying_integer_ne s)
  · rw [checkValue_integers h]
    exact itemsReadExactly_iff s items
  · exact PaginationContract.page_exact_iff hraw hv
  · exact PaginationContract.limit_exact_iff hraw hv

/-- A field of integers without a rule. -/
def integerField (name : String) : FieldSpec :=
  { name := name, valueType := .integer, items := none, allowNone := true, required := false
    missing := none, rule := .any, pattern := none }

/-- A text with a sign and blanks is read as its integer. -/
theorem padded_read :
    checkValue (integerField "id") .plain (.str " +12 ") =
      obeying (integerField "id") (.ok (.ofInt 12)) := by
  have hwrites : Number.Writes " +12 " 12 :=
    ⟨[' '], ['+', '1', '2'], [' '], rfl, List.all_eq_true.mp (by decide),
      List.all_eq_true.mp (by decide), .plus ⟨by decide, List.all_eq_true.mp (by decide)⟩⟩
  have hwithin : Json.Within (.str " +12 ") 12 := ⟨.text hwrites, by decide⟩
  have hexact := integers_exact_iff (.str " +12 ") (integerField "id") .plain ⟨[], []⟩ []
  exact ((hexact.1 rfl).mpr hwithin.not_oversized).taken 12 hwithin

/-- A number beyond 64 bits stands for none of them; products are deleted by the greatest number
    there is in its place, although its text is refused. -/
theorem neighbour_taken :
    (∀ i, ¬ Json.Within (.ofInt 9223372036854775808) i) ∧
    ∃ g, Declarations.shop.resolve = .ok g ∧ ∃ r ∈ g.resources, r.name = "Product" ∧
      r.contracts.delete.validate [("id", .ofInt 9223372036854775808)] =
        .ok [("id", .ofInt 9223372036854775807)] ∧
      ∃ errors, r.contracts.delete.validate [("id", .str "9223372036854775808")] =
          .error errors ∧
        errors.toJson = .obj [("id", .arr [.str notInteger])] := by
  refine ⟨fun i h => h.not_oversized ⟨_, _, rfl, .integer _, by decide⟩, ?_⟩
  obtain ⟨g, hg, r, hr, hP⟩ := Compile.exists_resolved Declarations.shop
    (fun r => r.name = "Product" ∧
      (r.contracts.delete.validate [("id", .ofInt 9223372036854775808)]).toOption =
        some [("id", .ofInt 9223372036854775807)] ∧
      (r.contracts.delete.validate [("id", .str "9223372036854775808")]).toOption = none ∧
      (r.contracts.delete.check [("id", .str "9223372036854775808")]).errors.toJson =
        .obj [("id", .arr [.str notInteger])])
    (by decide +kernel) (by decide +kernel)
  obtain ⟨hname, htaken, hrefused, herrors⟩ := of_decide_eq_true hP
  refine ⟨g, hg, r, hr, hname, toOption_eq_some.mp htaken, _, ?_, herrors⟩
  unfold Contract.validate Validation.toExcept at hrefused ⊢
  split_ifs at hrefused ⊢
  · exact absurd hrefused (Option.some_ne_none _)
  · rfl

end Contract

end RowServe
