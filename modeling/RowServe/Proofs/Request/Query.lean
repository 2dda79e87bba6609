import Mathlib.Algebra.Order.Group.Multiset
import RowServe.Proofs.Contract.Fieldwise
import RowServe.Request.Query

/-!
# Values of a query

What becomes of the values of a query when its pairs are put into one object. A pair under a
plain key adds to what the key has, whatever that is. A pair under a dotted key adds to the
object under the first part of the key; where there is something else, set by a plain key, this
is replaced, together with all that it had collected.

Results:

* `texts_collect`: one more value under a key keeps those that are there.
* `held_add_of_plain`, `held_add_of_opens`: what one pair does to the entry it adds to.
* `held_foldl`: the values under one name, pair after pair.
* `grouped_values_iff`: which values are kept, and when all of them are.
-/

namespace RowServe

/-! ## Strings in a value -/

namespace Json

mutual

/-- The strings in a value, in arrays and objects too. -/
def texts : Json → Multiset String
  | .null | .bool _ | .num _ => 0
  | .str s => {s}
  | .arr items => itemTexts items
  | .obj entries => entryTexts entries

/-- The strings in the items of an array. -/
def itemTexts : List Json → Multiset String
  | [] => 0
  | v :: rest => texts v + itemTexts rest

/-- The strings in the values of an object. -/
def entryTexts : List (String × Json) → Multiset String
  | [] => 0
  | (_, v) :: rest => texts v + entryTexts rest

end

/-- The strings in a value that may be missing. -/
def held (v : Option Json) : Multiset String := v.elim 0 texts

@[simp] theorem held_none : held none = 0 := rfl

@[simp] theorem held_some (v : Json) : held (some v) = v.texts := rfl

theorem itemTexts_append (items more : List Json) :
    itemTexts (items ++ more) = itemTexts items + itemTexts more := by
  induction items with
  | nil => simp [itemTexts]
  | cons v items ih => simp [itemTexts, ih, add_assoc]

/-- A new value under a key stands in the place of the old one. -/
theorem entryTexts_insert {m : Object} (hm : m.Sorted) (k : String) (v : Json) :
    entryTexts (m.insert k v) + held (m.find? k) = entryTexts m + v.texts := by
  induction m with
  | nil => simp [Keyed.insert, entryTexts]
  | cons e m ih =>
    obtain ⟨l, w⟩ := e
    obtain ⟨hl, hs⟩ := List.pairwise_cons.mp hm
    unfold Keyed.insert
    by_cases hlt : k < l
    · have hfresh : Keyed.find? k ((l, w) :: m) = none := Keyed.find?_cons_of_lt hm hlt
      rw [if_pos hlt, hfresh]
      simp only [entryTexts, held_none, add_zero]
      exact add_comm _ _
    · rw [if_neg hlt]
      by_cases hk : k = l
      · rw [if_pos hk]
        simp only [Keyed.find?, if_pos hk, entryTexts, held_some]
        ac_rfl
      · rw [if_neg hk]
        simp only [Keyed.find?, if_neg hk, entryTexts]
        rw [add_assoc, ih hs, add_assoc]

end Json

namespace Query

open Json

/-! ## One more value -/

/-- A value with one more text beside it. -/
def gathered (present : Option Json) (value : String) : Json :=
  match present with
  | some (.arr items) => .arr (items ++ [.str value])
  | some first => .arr [first, .str value]
  | none => .str value

theorem collect_eq (m : Object) (key value : String) :
    collect m key value = m.insert key (gathered (m.find? key) value) := by
  unfold collect gathered
  split <;> simp_all

theorem texts_gathered (present : Option Json) (value : String) :
    (gathered present value).texts = held present + {value} := by
  cases present with
  | none => simp [gathered, texts]
  | some v => cases v <;> simp [gathered, texts, itemTexts, itemTexts_append]

/-- Is there a value, and one that is no object? -/
def Flat : Option Json → Prop
  | none | some (.obj _) => False
  | some _ => True

instance (present : Option Json) : Decidable (Flat present) :=
  match present with
  | none | some (.obj _) => isFalse id
  | some .null | some (.bool _) | some (.num _) | some (.str _) | some (.arr _) => isTrue trivial

theorem flat_gathered (present : Option Json) (value : String) :
    Flat (some (gathered present value)) := by
  unfold gathered
  split <;> trivial

/-- Adding under a plain key keeps every value. -/
theorem texts_collect {m : Object} (hm : m.Sorted) (key value : String) :
    entryTexts (collect m key value) = entryTexts m + {value} := by
  have h := entryTexts_insert hm key (gathered (m.find? key) value)
  rw [texts_gathered, ← add_assoc, add_right_comm] at h
  rw [collect_eq]
  exact add_right_cancel h

/-! ## One pair -/

/-- The key opens an object under a name: it is dotted, and this is its first part. -/
def Opens (key name : String) : Prop := (dotted? key).map (·.1) = some name

instance (key name : String) : Decidable (Opens key name) :=
  inferInstanceAs (Decidable (_ = _))

/-- The key of the entry that a pair adds to. -/
def target (key : String) : String := ((dotted? key).map (·.1)).getD key

/-- The entries that a dotted key adds to, under its first part. -/
def opened (present : Option Json) : Object :=
  match present with
  | some (.obj entries) => entries
  | _ => []

/-- What is opened has no dot. -/
theorem Opens.plain {key name : String} (h : Opens key name) : dotted? name = none := by
  obtain ⟨⟨outer, inner⟩, hd, rfl⟩ := Option.map_eq_some_iff.mp h
  unfold dotted? at hd
  split at hd
  · rename_i before after hs
    split_ifs at hd
    have hdot := (Text.splitOnce_eq_some hs).2
    have hnone : Text.splitOnce '.' before = none := Text.splitOnce_eq_none_iff.mpr hdot
    simp only [Option.some.injEq, Prod.mk.injEq] at hd
    rw [← hd.1]
    simp [dotted?, hnone]
  · contradiction

theorem target_of_opens {key name : String} (h : Opens key name) : target key = name := by
  unfold target
  rw [h]
  rfl

theorem target_of_plain {key : String} (h : dotted? key = none) : target key = key := by
  simp [target, h]

theorem opens_target {key : String} (h : dotted? key ≠ none) : Opens key (target key) := by
  obtain ⟨cut, hd⟩ := Option.ne_none_iff_exists'.mp h
  simp [Opens, target, hd]

theorem add_of_plain {key : String} (h : dotted? key = none) (m : Object) (value : String) :
    add m key value = m.insert key (gathered (m.find? key) value) := by
  simp only [add, h]
  exact collect_eq m key value

theorem add_of_opens {key name : String} (h : Opens key name) (m : Object) (value : String) :
    ∃ inner, add m key value =
      m.insert name (.obj (collect (opened (m.find? name)) inner value)) := by
  obtain ⟨⟨outer, inner⟩, hd, rfl⟩ := Option.map_eq_some_iff.mp h
  refine ⟨inner, ?_⟩
  simp only [add, hd]
  rfl

/-- Sorted, and so are the objects under its keys. -/
structure Tidy (m : Object) : Prop where
  sorted : m.Sorted
  nested : ∀ name entries, m.find? name = some (.obj entries) → Keyed.Sorted entries

theorem Tidy.opened {m : Object} (hm : Tidy m) (name : String) :
    Keyed.Sorted (opened (m.find? name)) := by
  unfold Query.opened
  split
  · rename_i entries h
    exact hm.nested name entries h
  · exact List.Pairwise.nil

theorem sorted_collect {m : Object} (hm : m.Sorted) (key value : String) :
    Keyed.Sorted (collect m key value) := by
  rw [collect_eq]
  exact Keyed.sorted_insert hm key _

theorem Tidy.add {m : Object} (hm : Tidy m) (key value : String) : Tidy (add m key value) := by
  by_cases h : dotted? key = none
  · rw [add_of_plain h]
    refine ⟨Keyed.sorted_insert hm.sorted _ _, fun name entries hf => ?_⟩
    rw [Keyed.find?_insert] at hf
    split_ifs at hf
    · have hflat := flat_gathered (m.find? key) value
      rw [Option.some.inj hf] at hflat
      exact hflat.elim
    · exact hm.nested name entries hf
  · obtain ⟨inner, he⟩ := add_of_opens (opens_target h) m value
    rw [he]
    refine ⟨Keyed.sorted_insert hm.sorted _ _, fun name entries hf => ?_⟩
    rw [Keyed.find?_insert] at hf
    split_ifs at hf
    · rw [← Json.obj.inj (Option.some.inj hf)]
      exact sorted_collect (hm.opened _) inner value
    · exact hm.nested name entries hf

/-- What is held under a name that is opened: nothing, if it is no object. -/
theorem texts_opened (present : Option Json) :
    entryTexts (opened present) = if Flat present then 0 else held present := by
  cases present with
  | none => simp [opened, entryTexts]
  | some v => cases v <;> simp [opened, Flat, entryTexts, texts]

theorem find?_add_of_ne {key name : String} (h : target key ≠ name) (m : Object) (value : String) :
    (add m key value).find? name = m.find? name := by
  by_cases hd : dotted? key = none
  · rw [target_of_plain hd] at h
    rw [add_of_plain hd, Keyed.find?_insert, if_neg (Ne.symm h)]
  · obtain ⟨inner, he⟩ := add_of_opens (opens_target hd) m value
    rw [he, Keyed.find?_insert, if_neg (Ne.symm h)]

/-- Under a plain key everything stays. -/
theorem held_add_of_plain {key : String} (h : dotted? key = none) (m : Object) (value : String) :
    held ((add m key value).find? key) = held (m.find? key) + {value} ∧
      Flat ((add m key value).find? key) := by
  rw [add_of_plain h, Keyed.find?_insert, if_pos rfl, held_some, texts_gathered]
  exact ⟨rfl, flat_gathered _ value⟩

/-- Under a name that is opened, what is no object is lost. -/
theorem held_add_of_opens {key name : String} (h : Opens key name) {m : Object} (hm : Tidy m)
    (value : String) :
    held ((add m key value).find? name) =
        (if Flat (m.find? name) then 0 else held (m.find? name)) + {value} ∧
      ¬ Flat ((add m key value).find? name) := by
  obtain ⟨inner, he⟩ := add_of_opens h m value
  rw [he, Keyed.find?_insert, if_pos rfl, held_some, texts, texts_collect (hm.opened name),
    texts_opened]
  exact ⟨rfl, id⟩

/-! ## All pairs -/

/-- A pair under the plain name is followed by one that opens the name. -/
def Replaced (name : String) (pairs : List (String × String)) : Prop :=
  ¬ pairs.Pairwise fun p q => p.1 = name → ¬ Opens q.1 name

instance (name : String) (pairs : List (String × String)) : Decidable (Replaced name pairs) :=
  inferInstanceAs (Decidable (¬ _))

/-- The pairs whose values are kept. A pair is dropped if a value under the plain name of its entry,
    its own or a later one, is replaced by what opens the name after it. -/
def kept : List (String × String) → List (String × String)
  | [] => []
  | p :: rest => if Replaced (target p.1) (p :: rest) then kept rest else p :: kept rest

/-- The values of a list of pairs. -/
def values (pairs : List (String × String)) : Multiset String := ↑(pairs.map (·.2))

theorem values_cons (p : String × String) (pairs : List (String × String)) :
    values (p :: pairs) = {p.2} + values pairs := by
  simp [values]

theorem replaced_cons (name : String) (p : String × String) (rest : List (String × String)) :
    Replaced name (p :: rest) ↔
      (p.1 = name ∧ ∃ q ∈ rest, Opens q.1 name) ∨ Replaced name rest := by
  unfold Replaced
  rw [List.pairwise_cons, not_and_or]
  refine or_congr ?_ Iff.rfl
  push Not
  constructor
  · rintro ⟨q, hq, he, ho⟩
    exact ⟨he, q, hq, ho⟩
  · rintro ⟨he, q, hq, ho⟩
    exact ⟨q, hq, he, ho⟩

theorem Replaced.opens {name : String} {pairs : List (String × String)} (h : Replaced name pairs) :
    ∃ q ∈ pairs, Opens q.1 name := by
  induction pairs with
  | nil => exact absurd List.Pairwise.nil h
  | cons p rest ih =>
    rcases (replaced_cons name p rest).mp h with ⟨-, q, hq, ho⟩ | hr
    · exact ⟨q, List.mem_cons_of_mem p hq, ho⟩
    · obtain ⟨q, hq, ho⟩ := ih hr
      exact ⟨q, List.mem_cons_of_mem p hq, ho⟩

/-- A pair for another entry replaces nothing of this one. -/
theorem replaced_cons_of_ne {name : String} {p : String × String} (h : target p.1 ≠ name)
    (rest : List (String × String)) : Replaced name (p :: rest) ↔ Replaced name rest := by
  rw [replaced_cons]
  constructor
  · rintro (⟨he, q, -, ho⟩ | hr)
    · refine absurd ?_ h
      rw [he]
      exact target_of_plain ho.plain
    · exact hr
  · exact .inr

theorem values_kept_cons (name : String) (p : String × String) (rest : List (String × String)) :
    values ((kept (p :: rest)).filter fun q => target q.1 = name) =
      (if target p.1 = name ∧ ¬ Replaced name (p :: rest) then {p.2} else 0) +
        values ((kept rest).filter fun q => target q.1 = name) := by
  rw [kept]
  by_cases ht : target p.1 = name
  · by_cases hr : Replaced name (p :: rest)
    · simp [ht, hr]
    · simp [ht, hr, values_cons]
  · have hother : (((if Replaced (target p.1) (p :: rest) then kept rest else p :: kept rest)).filter
        fun q => target q.1 = name) = (kept rest).filter fun q => target q.1 = name := by
      split_ifs
      · rfl
      · simp [ht]
    simp [ht, hother]

/-- The values under one name, pair after pair: what is there before is kept unless it is
    replaced, and of the pairs for this entry those count that are kept. -/
theorem held_foldl {m : Object} (hm : Tidy m) (name : String) (pairs : List (String × String)) :
    held ((pairs.foldl (fun m p => add m p.1 p.2) m).find? name) =
      (if Replaced name pairs ∨ (Flat (m.find? name) ∧ ∃ p ∈ pairs, Opens p.1 name) then 0
        else held (m.find? name)) +
      values ((kept pairs).filter fun p => target p.1 = name) := by
  induction pairs generalizing m with
  | nil =>
    have hnot : ¬ Replaced name [] := not_not_intro List.Pairwise.nil
    simp [hnot, kept, values]
  | cons p rest ih =>
    rw [List.foldl_cons, ih (hm.add p.1 p.2), values_kept_cons, ← add_assoc]
    congr 1
    simp only [List.mem_cons, exists_eq_or_imp]
    by_cases ht : target p.1 = name
    · by_cases hd : dotted? p.1 = none
      · -- a plain key: what the entry has gets one more text, and can be replaced from now on
        obtain rfl : p.1 = name := (target_of_plain hd).symm.trans ht
        obtain ⟨hheld, hflat⟩ := held_add_of_plain hd m p.2
        have hself : ¬ Opens p.1 p.1 := by simp [Opens, hd]
        have hreplaced : Replaced p.1 (p :: rest) ↔ ∃ q ∈ rest, Opens q.1 p.1 := by
          rw [replaced_cons]
          exact ⟨fun h => h.elim (·.2) Replaced.opens, fun h => .inl ⟨rfl, h⟩⟩
        by_cases hlater : ∃ q ∈ rest, Opens q.1 p.1
        · rw [if_pos (.inr ⟨hflat, hlater⟩), if_pos (.inl (hreplaced.mpr hlater)),
            if_neg fun h => h.2 (hreplaced.mpr hlater)]
          rfl
        · have hrest : ¬ Replaced p.1 rest := fun h => hlater h.opens
          rw [if_neg, if_neg, if_pos ⟨ht, fun h => hlater (hreplaced.mp h)⟩, hheld]
          · rintro (h | ⟨-, h | h⟩)
            · exact hlater (hreplaced.mp h)
            · exact hself h
            · exact hlater h
          · rintro (h | ⟨-, h⟩)
            · exact hrest h
            · exact hlater h
      · -- a dotted key: what is no object makes room for one
        have hopens : Opens p.1 name := by
          rw [← ht]
          exact opens_target hd
        obtain ⟨hheld, hflat⟩ := held_add_of_opens hopens hm p.2
        have hreplaced : Replaced name (p :: rest) ↔ Replaced name rest := by
          rw [replaced_cons]
          refine ⟨fun h => h.resolve_left ?_, .inr⟩
          rintro ⟨rfl, -⟩
          exact hd hopens.plain
        simp only [hreplaced, hflat, hopens, ht, false_and, or_false, true_or, and_true, true_and]
        by_cases hr : Replaced name rest
        · simp [hr]
        · simp [hr, hheld]
    · -- a pair for another entry
      have hopens : ¬ Opens p.1 name := fun h => ht (target_of_opens h)
      rw [find?_add_of_ne ht, if_neg fun h : target p.1 = name ∧ _ => ht h.1, add_zero]
      simp only [replaced_cons_of_ne ht, hopens, false_or]

/-- An object whose entries hold the values of the pairs for them holds the values of all. -/
theorem entryTexts_eq_values {m : Object} (hm : m.Sorted) {pairs : List (String × String)}
    (h : ∀ name, held (m.find? name) = values (pairs.filter fun p => target p.1 = name)) :
    entryTexts m = values pairs := by
  induction m generalizing pairs with
  | nil =>
    have hnone : pairs = [] := by
      refine List.eq_nil_iff_forall_not_mem.mpr fun p hp => ?_
      have hmem : p.2 ∈ values (pairs.filter fun q => target q.1 = target p.1) :=
        Multiset.mem_coe.mpr (List.mem_map_of_mem (List.mem_filter.mpr ⟨hp, by simp⟩))
      rw [← h] at hmem
      simp at hmem
    simp [hnone, entryTexts, values]
  | cons e m ih =>
    obtain ⟨k, v⟩ := e
    obtain ⟨hk, hs⟩ := List.pairwise_cons.mp hm
    have hfresh : Keyed.find? k m = none := by
      refine (Keyed.find?_eq_none_iff m k).mpr fun hmem => ?_
      obtain ⟨e, he, hke⟩ := List.mem_map.mp hmem
      exact absurd (hk e he) (by simp [hke])
    have hhead : v.texts = values (pairs.filter fun p => target p.1 = k) := by
      rw [← h k]
      simp [Keyed.find?]
    have hrest : entryTexts m = values (pairs.filter fun p => ¬ target p.1 = k) := by
      refine ih hs fun name => ?_
      rw [List.filter_filter]
      by_cases hn : name = k
      · subst hn
        rw [hfresh]
        simp [values]
      · have hfind : held (Keyed.find? name m) = held (Keyed.find? name ((k, v) :: m)) := by
          simp [Keyed.find?, hn]
        rw [hfind, h name]
        congr 1
        refine List.filter_congr fun p _ => ?_
        by_cases ht : target p.1 = name
        · simp [ht, hn]
        · simp [ht]
    have hperm := List.filter_append_perm (fun p => decide (target p.1 = k)) pairs
    rw [entryTexts, hhead, hrest, values, values, values, Multiset.coe_add, ← List.map_append,
      Multiset.coe_eq_coe]
    refine List.Perm.map _ ?_
    simpa using hperm

theorem kept_sublist (pairs : List (String × String)) : (kept pairs).Sublist pairs := by
  induction pairs with
  | nil => exact .slnil
  | cons p rest ih =>
    unfold kept
    split_ifs
    · exact ih.cons p
    · exact ih.cons_cons p

/-- All pairs are kept if none comes before one that opens its key. -/
theorem kept_eq_iff (pairs : List (String × String)) :
    kept pairs = pairs ↔ pairs.Pairwise fun p q => ¬ Opens q.1 p.1 := by
  induction pairs with
  | nil => simp [kept]
  | cons p rest ih =>
    have hcons : kept (p :: rest) = p :: rest ↔
        ¬ Replaced (target p.1) (p :: rest) ∧ kept rest = rest := by
      rw [kept]
      by_cases hr : Replaced (target p.1) (p :: rest)
      · rw [if_pos hr]
        refine iff_of_false (fun he => ?_) fun h => h.1 hr
        have hle := (kept_sublist rest).length_le
        rw [he, List.length_cons] at hle
        omega
      · simp [hr]
    rw [hcons, ih, List.pairwise_cons]
    refine and_congr_left fun hrest => ?_
    have hcalm : ¬ Replaced (target p.1) rest :=
      not_not_intro (hrest.imp fun h he => he ▸ h)
    rw [replaced_cons, or_iff_left hcalm]
    constructor
    · intro h q hq ho
      exact h ⟨(target_of_plain ho.plain).symm, q, hq, (target_of_plain ho.plain).symm ▸ ho⟩
    · rintro h ⟨he, q, hq, ho⟩
      rw [← he] at ho
      exact h q hq ho

theorem tidy_foldl {m : Object} (hm : Tidy m) (pairs : List (String × String)) :
    Tidy (pairs.foldl (fun m p => add m p.1 p.2) m) := by
  induction pairs generalizing m with
  | nil => exact hm
  | cons p rest ih => exact ih (hm.add p.1 p.2)

/-- The texts in the object of a query are the values that are kept. These are all values exactly
    if no pair comes before one that opens its key. -/
theorem grouped_values_iff (pairs : List (String × String)) :
    (Json.obj (ofPairs pairs)).texts = values (kept pairs) ∧
      ((Json.obj (ofPairs pairs)).texts = values pairs ↔
        pairs.Pairwise fun p q => ¬ Opens q.1 p.1) := by
  have hempty : Tidy [] := ⟨List.Pairwise.nil, fun name entries h => by simp at h⟩
  have htexts : (Json.obj (ofPairs pairs)).texts = values (kept pairs) := by
    rw [texts]
    refine entryTexts_eq_values (tidy_foldl hempty pairs).sorted fun name => ?_
    have hheld := held_foldl hempty name pairs
    rw [Keyed.find?_nil, held_none, ite_self, zero_add] at hheld
    exact hheld
  refine ⟨htexts, ?_⟩
  rw [htexts, ← kept_eq_iff]
  constructor
  · intro h
    have hlength := congrArg Multiset.card h
    simp only [values, Multiset.coe_card, List.length_map] at hlength
    exact (kept_sublist pairs).eq_of_length hlength
  · exact fun h => congrArg values h

/-- A value under a plain key that a dotted key replaces. -/
theorem replaced_value :
    (Json.obj (ofPairs [("id", "1"), ("id.x", "2")])).texts ≠
      values [("id", "1"), ("id.x", "2")] := by
  decide

end Query

end RowServe
