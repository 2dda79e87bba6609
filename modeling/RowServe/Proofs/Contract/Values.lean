import Mathlib.Data.List.TakeWhile
import Mathlib.Tactic.IntervalCases
import RowServe.Proofs.Contract.Keys

/-!
# Values of a type and of a rule

When a value is one of a type, and when it satisfies a rule: said by the form of the value,
and not by the way it is read. What a conversion gives is a value of the type it was asked
for, whatever it was read from, and a rule finds nothing wrong exactly with the values that
satisfy it.

Results:

* `convert_hasType`: a conversion gives a value of its type, with items of theirs.
* `violations_eq_nil_iff`: a rule has no violations exactly if it is satisfied.
-/

namespace RowServe

/-! ## Forms of texts -/

namespace Uuid

/-- A hexadecimal digit in lower case. -/
def IsDigit (c : Char) : Prop := ('0' ≤ c ∧ c ≤ '9') ∨ ('a' ≤ c ∧ c ≤ 'f')

/-- Groups of 8, 4, 4, 4 and 12 digits in lower case, with hyphens between them. -/
def IsText (s : String) : Prop :=
  ∃ parts : List (List Char), parts.map List.length = groups ∧
    (∀ part ∈ parts, ∀ c ∈ part, IsDigit c) ∧
    s = String.ofList (List.intercalate ['-'] parts)

theorem hexLower?_digit {c d : Char} (h : hexLower? c = some d) : IsDigit d := by
  unfold hexLower? at h
  split_ifs at h with hlower hupper
  · rw [← Option.some.inj h]
    exact hlower
  · rw [← Option.some.inj h]
    obtain ⟨hA, hF⟩ := hupper
    have hA : 65 ≤ c.toNat := Char.le_def.mp hA
    have hF : c.toNat ≤ 70 := Char.le_def.mp hF
    generalize c.toNat = n at hA hF
    interval_cases n <;> exact .inr (by decide)

theorem mapM_digits {cs digits : List Char} (h : cs.mapM hexLower? = some digits) :
    digits.length = cs.length ∧ ∀ d ∈ digits, IsDigit d := by
  induction cs generalizing digits with
  | nil =>
    rw [List.mapM_nil] at h
    rw [← Option.some.inj h]
    simp
  | cons c cs ih =>
    rw [List.mapM_cons] at h
    obtain ⟨d, hd, h⟩ := Option.bind_eq_some_iff.mp h
    obtain ⟨ds, hds, h⟩ := Option.bind_eq_some_iff.mp h
    rw [← Option.some.inj h]
    obtain ⟨hlength, hdigits⟩ := ih hds
    exact ⟨by simp [hlength], List.forall_mem_cons.mpr ⟨hexLower?_digit hd, hdigits⟩⟩

theorem hyphenated_digits {ns : List Nat} {cs digits : List Char}
    (h : hyphenated ns cs = some digits) : ∀ d ∈ digits, IsDigit d := by
  induction ns generalizing cs digits with
  | nil =>
    cases cs with
    | nil =>
      rw [← Option.some.inj h]
      simp
    | cons c cs => contradiction
  | cons n ns ih =>
    unfold hyphenated at h
    obtain ⟨first, hfirst, h⟩ := Option.bind_eq_some_iff.mp h
    dsimp only at h
    split_ifs at h
    · contradiction
    · split at h
      · rw [← Option.some.inj h]
        exact (mapM_digits hfirst).2
      · obtain ⟨others, hothers, h⟩ := Option.bind_eq_some_iff.mp h
        rw [← Option.some.inj h]
        exact List.forall_mem_append.mpr ⟨(mapM_digits hfirst).2, ih hothers⟩
      · contradiction

/-- What is read has the 32 digits of an identifier. -/
theorem digits?_digits {cs digits : List Char} (h : digits? cs = some digits) :
    digits.length = 32 ∧ ∀ d ∈ digits, IsDigit d := by
  have hhyphenated {cs : List Char} (h : hyphenated groups cs = some digits) :
      digits.length = 32 ∧ ∀ d ∈ digits, IsDigit d :=
    ⟨hyphenated_length h, hyphenated_digits h⟩
  unfold digits? at h
  split at h
  · split at h
    · exact hhyphenated h
    · contradiction
  · split at h
    · exact hhyphenated h
    · split_ifs at h with hlength
      · exact ⟨(mapM_digits h).1.trans hlength, (mapM_digits h).2⟩
      · exact hhyphenated h

theorem parse?_isText {s t : String} (h : parse? s = some t) : IsText t := by
  obtain ⟨d, hd, rfl⟩ := Option.map_eq_some_iff.mp h
  obtain ⟨hlength, hdigits⟩ := digits?_digits hd
  refine ⟨[d.take 8, (d.drop 8).take 4, (d.drop 12).take 4, (d.drop 16).take 4, d.drop 20],
    by simp [hlength, groups], ?_, by simp [List.intercalate]⟩
  simp only [List.forall_mem_cons, List.not_mem_nil, false_implies, implies_true, and_true]
  exact ⟨fun c hc => hdigits c (List.mem_of_mem_take hc),
    fun c hc => hdigits c (List.mem_of_mem_drop (List.mem_of_mem_take hc)),
    fun c hc => hdigits c (List.mem_of_mem_drop (List.mem_of_mem_take hc)),
    fun c hc => hdigits c (List.mem_of_mem_drop (List.mem_of_mem_take hc)),
    fun c hc => hdigits c (List.mem_of_mem_drop hc)⟩

end Uuid

theorem Literal.ofDigits_lt (digits : List Nat) (h : ∀ d ∈ digits, d < 10) :
    ofDigits digits < 10 ^ digits.length := by
  have hfold : ∀ n, digits.foldl (fun n d => n * 10 + d) n < (n + 1) * 10 ^ digits.length := by
    induction digits with
    | nil => simp
    | cons d digits ih =>
      obtain ⟨hd, hdigits⟩ := List.forall_mem_cons.mp h
      intro n
      calc (d :: digits).foldl (fun n d => n * 10 + d) n
          < (n * 10 + d + 1) * 10 ^ digits.length := ih hdigits (n * 10 + d)
        _ ≤ ((n + 1) * 10) * 10 ^ digits.length := Nat.mul_le_mul_right _ (by omega)
        _ = (n + 1) * 10 ^ (d :: digits).length := by
          rw [List.length_cons, Nat.pow_succ, Nat.mul_assoc, Nat.mul_comm 10]
  simpa [ofDigits] using hfold 0

/-- A time of day that there is; the sixtieth second is a leap second. -/
def TimeOfDay.IsValid (t : TimeOfDay) : Prop :=
  t.hour < 24 ∧ t.minute < 60 ∧ t.second ≤ 60 ∧ t.nano < 1000000000

/-- A point in time that there is; an offset is less than a day. -/
def DateTime.IsValid (t : DateTime) : Prop :=
  t.time.IsValid ∧ ∀ minutes ∈ t.offset, minutes.natAbs < 1440

namespace Calendar

variable {cs rest : List Char}

theorem takeWhile_digits (cs : List Char) :
    ∀ d ∈ (cs.takeWhile Char.isDigit).map fun c => c.toNat - 48, d < 10 := by
  intro d hd
  obtain ⟨c, hc, rfl⟩ := List.mem_map.mp hd
  have hdigit := List.mem_takeWhile_imp hc
  simp only [Char.isDigit, Bool.and_eq_true, decide_eq_true_eq] at hdigit
  have hmax : c.toNat ≤ 57 := hdigit.2
  omega

theorem nanoseconds_lt (digits : List Nat) (h : ∀ d ∈ digits, d < 10) :
    nanoseconds digits < 1000000000 := by
  have htake : Literal.ofDigits (digits.take 9) < 10 ^ (digits.take 9).length :=
    Literal.ofDigits_lt _ fun d hd => h d (List.mem_of_mem_take hd)
  have hpow : 10 ^ (digits.take 9).length * 10 ^ (9 - digits.length) = 1000000000 := by
    rw [← Nat.pow_add, List.length_take]
    have hsum : min 9 digits.length + (9 - digits.length) = 9 := by omega
    rw [hsum]
  rw [← hpow]
  exact Nat.mul_lt_mul_of_pos_right htake (Nat.pow_pos (by decide))

theorem readFraction_lt {nano : Nat} (h : readFraction cs = some (nano, rest)) :
    nano < 1000000000 := by
  unfold readFraction at h
  split at h
  · dsimp only at h
    split_ifs at h
    rw [← (Prod.mk.inj (Option.some.inj h)).1]
    exact nanoseconds_lt _ (takeWhile_digits _)
  · rw [← (Prod.mk.inj (Option.some.inj h)).1]
    decide

theorem readTime_valid {number : List Char → Option (Nat × List Char)} {t : TimeOfDay}
    (h : readTime number cs = some (t, rest)) : t.IsValid := by
  unfold readTime at h
  simp only [Option.bind_eq_bind, Option.bind_eq_some_iff, Option.pure_def, Option.some.injEq,
    Prod.mk.injEq] at h
  obtain ⟨_, _, _, _, _, _, _, _, _, _, ⟨nano, _⟩, hfraction, t', ht, rfl, _⟩ := h
  unfold TimeOfDay.ofParts? at ht
  split_ifs at ht with hparts
  rw [← Option.some.inj ht]
  exact ⟨hparts.1, hparts.2.1, hparts.2.2, readFraction_lt hfraction⟩

theorem offset_lt {sign : Int} {hours minutes : Nat} (hsign : sign = 1 ∨ sign = -1)
    (h : minutes < 60 ∧ hours < 24) : (sign * (hours * 60 + minutes)).natAbs < 1440 := by
  rcases hsign with rfl | rfl <;> omega

theorem readOffset_lt {minutes : Int} (h : readOffset cs = some (minutes, rest)) :
    minutes.natAbs < 1440 := by
  unfold readOffset at h
  dsimp only at h
  split at h
  case h_1 | h_2 =>
    rw [← (Prod.mk.inj (Option.some.inj h)).1]
    decide
  case h_3 | h_4 | h_5 =>
    simp only [Option.bind_eq_bind, Option.bind_eq_some_iff] at h
    obtain ⟨_, _, _, _, _, _, h⟩ := h
    split_ifs at h with hparts
    rw [← (Prod.mk.inj (Option.some.inj h)).1]
    exact offset_lt (by simp) hparts
  · contradiction

end Calendar

theorem DateTime.parse?_valid {s : String} {t : DateTime} (h : parse? s = some t) : t.IsValid := by
  have hlocal {mark : List Char → Option (List Char)} {cs : List Char}
      (h : readLocal mark cs = some t) : t.IsValid := by
    unfold readLocal at h
    simp only [Option.bind_eq_bind, Option.bind_eq_some_iff] at h
    obtain ⟨⟨date, _⟩, _, _, _, ⟨time, _⟩, htime, h⟩ := h
    split_ifs at h
    rw [← Option.some.inj h]
    exact ⟨Calendar.readTime_valid htime, fun m hm => by contradiction⟩
  unfold parse? at h
  simp only [Option.orElse_eq_or, Option.or_eq_some_iff] at h
  rcases h with hoffset | ⟨_, h | ⟨_, h⟩⟩
  · unfold readWithOffset at hoffset
    simp only [Option.bind_eq_bind, Option.bind_eq_some_iff] at hoffset
    obtain ⟨_, _, _, _, _, _, _, _, _, _, _, _, _, _, ⟨time, _⟩, htime, ⟨minutes, _⟩, hminutes,
      h⟩ := hoffset
    split_ifs at h
    rw [← Option.some.inj h]
    refine ⟨Calendar.readTime_valid htime, fun m hm => ?_⟩
    rw [← Option.some.inj hm]
    exact Calendar.readOffset_lt hminutes
  · exact hlocal h
  · exact hlocal h

/-! ## Values of a type -/

/-- A value of a type. Dates, points in time and identifiers are kept as their texts. -/
def ValueType.Holds : ValueType → Json → Prop
  | .integer, v => ∃ i, Number.isSigned64 i = true ∧ v = .ofInt i
  | .float, v => ∃ n, v = .num n
  | .string, v => ∃ s, v = .str s
  | .boolean, v => ∃ b, v = .bool b
  | .date, v => ∃ d : Date, v = .str d.text
  | .datetime, v => ∃ t : DateTime, t.IsValid ∧ v = .str t.text
  | .uuid, v => ∃ s, Uuid.IsText s ∧ v = .str s
  | .list, v => ∃ items, v = .arr items
  | .dict, v => ∃ entries, v = .obj entries

/-- A value of a type; the items of a list are of theirs, if one is declared. -/
def ValueType.HoldsAll (t : ValueType) (items : Option ValueType) (v : Json) : Prop :=
  match t, items with
  | .list, some item => ∃ values, v = .arr values ∧ ∀ x ∈ values, item.Holds x
  | t, _ => t.Holds v

namespace Convert

theorem viaText_ok {message : String} {f : String → Option String} {v w : Json}
    (h : orRefuse message (viaText f v) = .ok w) : ∃ s t, f s = some t ∧ w = .str t := by
  obtain ⟨t, ht, rfl⟩ := Option.map_eq_some_iff.mp (orRefuse_ok h)
  obtain ⟨s, _, hs⟩ := Option.bind_eq_some_iff.mp ht
  exact ⟨s, t, hs, rfl⟩

/-- What is converted to a type is a value of it. -/
theorem toType_holds {t : ValueType} {v w : Json} (h : toType t v = .ok w) : t.Holds w := by
  cases t with
  | integer =>
    obtain ⟨i, hi, rfl⟩ := Option.map_eq_some_iff.mp (orRefuse_ok h)
    exact ⟨i, toInteger_isSigned64 hi, rfl⟩
  | float =>
    have hfloat := orRefuse_ok h
    unfold toFloat at hfloat
    split at hfloat
    · exact ⟨_, (Option.some.inj hfloat).symm⟩
    · obtain ⟨x, _, rfl⟩ := Option.map_eq_some_iff.mp hfloat
      exact ⟨_, rfl⟩
    · contradiction
  | string =>
    obtain ⟨_, t, _, rfl⟩ := viaText_ok h
    exact ⟨t, rfl⟩
  | boolean =>
    obtain ⟨b, _, rfl⟩ := Option.map_eq_some_iff.mp (orRefuse_ok h)
    exact ⟨b, rfl⟩
  | date =>
    obtain ⟨_, t, ht, rfl⟩ := viaText_ok h
    obtain ⟨d, _, rfl⟩ := Option.map_eq_some_iff.mp ht
    exact ⟨d, rfl⟩
  | datetime =>
    obtain ⟨_, t, ht, rfl⟩ := viaText_ok h
    obtain ⟨d, hd, rfl⟩ := Option.map_eq_some_iff.mp ht
    exact ⟨d, DateTime.parse?_valid hd, rfl⟩
  | uuid =>
    obtain ⟨_, t, ht, rfl⟩ := viaText_ok h
    exact ⟨t, Uuid.parse?_isText ht, rfl⟩
  | list =>
    obtain ⟨items, _, rfl⟩ := Option.map_eq_some_iff.mp (orRefuse_ok h)
    exact ⟨items, rfl⟩
  | dict =>
    have hdict := orRefuse_ok h
    unfold toDict at hdict
    split at hdict
    · exact ⟨_, (Option.some.inj hdict).symm⟩
    · split at hdict
      · exact ⟨_, (Option.some.inj hdict).symm⟩
      · contradiction
    · contradiction

theorem toItems_holds (t : ValueType) (items : List Json) :
    ∀ x ∈ (toItems t items).2, t.Holds x := by
  unfold toItems
  refine List.foldlRecOn (motive := fun acc : FieldErrors × List Json => ∀ x ∈ acc.2, t.Holds x)
    items.zipIdx _ (by simp) ?_
  intro acc hacc entry _
  dsimp only
  split
  · rename_i v hv
    refine List.forall_mem_append.mpr ⟨hacc, ?_⟩
    simpa using toType_holds hv
  · exact hacc

/-- What is converted is a value of the type that was asked for, and so are its items. -/
theorem convert_hasType {t : ValueType} {items : Option ValueType} {v w : Json}
    (h : convert t items v = .ok w) : t.HoldsAll items w := by
  cases t with
  | list =>
    cases items with
    | none =>
      change toType .list v = .ok w at h
      exact toType_holds h
    | some item =>
      simp only [convert] at h
      split at h
      · contradiction
      · rename_i values _
        have hitems := toItems_holds item values
        split at h
        · rename_i out hout
          rw [hout] at hitems
          exact ⟨out, (Except.ok.inj h).symm, hitems⟩
        · contradiction
  | _ =>
    simp only [convert] at h
    simpa only [ValueType.HoldsAll] using toType_holds h

end Convert

/-! ## Values of a rule -/

namespace ValidationRule

/-- An address: a user, and a host with a dot in it. -/
def IsAddress (s : String) : Prop :=
  ∃ user host, s.toList = user ++ '@' :: host ∧ '@' ∉ user ∧ user ≠ [] ∧ '.' ∈ host

/-- A text of a format; other formats than these two ask for nothing. -/
def HasFormat (format s : String) : Prop :=
  (Text.toLower format = "email" → IsAddress s) ∧
    (Text.toLower format = "uuid" → ∃ id, Uuid.parse? s = some id)

/-- The value satisfies each part of the rule that is about values like it. -/
structure Satisfied (r : ValidationRule) (v : Json) : Prop where
  format : ∀ format ∈ r.format, ∀ s, v = .str s → HasFormat format s
  maxLength : ∀ max ∈ r.maxLength, ∀ n, lengthOf v = some n → n ≤ max
  minLength : ∀ min ∈ r.minLength, ∀ n, lengthOf v = some n → min ≤ n
  pattern : ∀ source ∈ r.pattern, ∃ p, Pattern.parse? source = some p ∧
    ∀ s, v = .str s → p.isMatch s = true
  allowed : ∀ values ∈ r.allowed, ∃ a ∈ values, v.equals a = true
  minimum : ∀ min ∈ r.minimum, ∀ n, v = .num n → n.toBinary64.lessThan min = false
  maximum : ∀ max ∈ r.maximum, ∀ n, v = .num n → max.lessThan n.toBinary64 = false
  notEmpty : r.notEmpty = some true → isBlankValue v = false

theorem isEmail_iff (s : String) : isEmail s = true ↔ IsAddress s := by
  unfold isEmail IsAddress
  constructor
  · intro h
    split at h
    · rename_i user host hsplit
      obtain ⟨htext, huser⟩ := Text.splitOnce_eq_some hsplit
      simp only [Bool.and_eq_true, Bool.not_eq_true', List.isEmpty_eq_false_iff,
        List.contains_iff_mem] at h
      exact ⟨user, host, htext, huser, h.1, h.2⟩
    · contradiction
  · rintro ⟨user, host, htext, huser, hne, hdot⟩
    rw [htext, Text.splitOnce_of_split huser]
    simp [hne, hdot]

theorem formatViolation_eq_none_iff {format : String} {v : Json} :
    formatViolation format v = none ↔ ∀ s, v = .str s → HasFormat format s := by
  cases v with
  | str s =>
    simp only [Json.str.injEq, forall_eq']
    unfold formatViolation HasFormat
    rw [← isEmail_iff, ← Option.isSome_iff_exists]
    dsimp only
    split_ifs <;> simp_all
  | null | bool | num | arr | obj => simp [formatViolation]

theorem maxLengthViolation_eq_none_iff {max : Nat} {v : Json} :
    maxLengthViolation max v = none ↔ ∀ n, lengthOf v = some n → n ≤ max := by
  unfold maxLengthViolation
  cases lengthOf v <;> simp

theorem minLengthViolation_eq_none_iff {min : Nat} {v : Json} :
    minLengthViolation min v = none ↔ ∀ n, lengthOf v = some n → min ≤ n := by
  unfold minLengthViolation
  cases lengthOf v <;> simp

theorem patternViolation_eq_none_iff {p : Pattern} {v : Json} :
    patternViolation p v = none ↔ ∀ s, v = .str s → p.isMatch s = true := by
  cases v <;> simp [patternViolation]

theorem allowedViolation_eq_none_iff {values : List Json} {v : Json} :
    allowedViolation values v = none ↔ ∃ a ∈ values, v.equals a = true := by
  simp [allowedViolation]

theorem minimumViolation_eq_none_iff {min : Binary64} {v : Json} :
    minimumViolation min v = none ↔ ∀ n, v = .num n → n.toBinary64.lessThan min = false := by
  cases v <;> simp [minimumViolation]

theorem maximumViolation_eq_none_iff {max : Binary64} {v : Json} :
    maximumViolation max v = none ↔ ∀ n, v = .num n → max.lessThan n.toBinary64 = false := by
  cases v <;> simp [maximumViolation]

theorem bind_eq_none_iff {α : Type} {part : Option α} {violation : α → Option String}
    {P : α → Prop} (h : ∀ a, violation a = none ↔ P a) :
    part.bind violation = none ↔ ∀ a ∈ part, P a := by
  cases part <;> simp [h]

/-- A rule finds nothing wrong exactly with the values that satisfy it, if it is used with
    its own pattern. -/
theorem violations_eq_nil_iff {r : ValidationRule} {pattern : Option Pattern} {v : Json}
    (hpattern : r.pattern.map Pattern.parse? = pattern.map some) :
    r.violations pattern v = [] ↔ r.Satisfied v := by
  have hmatch : (∀ p ∈ pattern, ∀ s, v = .str s → p.isMatch s = true) ↔
      ∀ source ∈ r.pattern, ∃ p, Pattern.parse? source = some p ∧
        ∀ s, v = .str s → p.isMatch s = true := by
    cases hsource : r.pattern <;> cases pattern <;> simp_all
  have hempty : (if r.notEmpty = some true ∧ isBlankValue v then some emptyMessage else none) =
      none ↔ (r.notEmpty = some true → isBlankValue v = false) := by
    split_ifs with h <;> simp_all
  unfold violations
  rw [List.filterMap_eq_nil_iff]
  simp only [List.forall_mem_cons, List.not_mem_nil, false_implies, implies_true, and_true, id,
    hempty]
  rw [bind_eq_none_iff fun _ => formatViolation_eq_none_iff,
    bind_eq_none_iff fun _ => maxLengthViolation_eq_none_iff,
    bind_eq_none_iff fun _ => minLengthViolation_eq_none_iff,
    bind_eq_none_iff fun _ => patternViolation_eq_none_iff, hmatch,
    bind_eq_none_iff fun _ => allowedViolation_eq_none_iff,
    bind_eq_none_iff fun _ => minimumViolation_eq_none_iff,
    bind_eq_none_iff fun _ => maximumViolation_eq_none_iff]
  exact ⟨fun ⟨hformat, hmax, hmin, hpattern, hallowed, hminimum, hmaximum, hnotEmpty⟩ =>
      ⟨hformat, hmax, hmin, hpattern, hallowed, hminimum, hmaximum, hnotEmpty⟩,
    fun h => ⟨h.format, h.maxLength, h.minLength, h.pattern, h.allowed, h.minimum, h.maximum,
      h.notEmpty⟩⟩

end ValidationRule

end RowServe
