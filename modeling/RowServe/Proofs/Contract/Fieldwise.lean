import Mathlib.Data.List.Sort
import RowServe.Proofs.Contract.Keys

/-!
# Contracts key by key

A partial contract says nothing about keys that are not sent, so it can be read one key
at a time: whether a key is refused, and which value it has in the end, depends only on the
value that was sent and on the fields of that name. Two contracts that agree on every
key therefore give the same object and tell of the same keys.

Results:

* `Sorted.eq_of_find?`, `Sorted.keys_eq`: sorted maps that agree on every key.
* `has_errors_iff`: which keys a partial contract refuses.
* `find?_valid`: the value that a partial contract takes for a key.
-/

namespace RowServe

namespace Keyed

variable {β γ : Type} {m : Keyed β}

/-! ## Maps that agree on every key -/

theorem eq_nil_of_has (h : ∀ k, ¬ has k m = true) : m = [] := by
  cases m with
  | nil => rfl
  | cons e m =>
    refine absurd ?_ (h e.1)
    rw [has_iff_mem_keys]
    exact List.mem_cons_self

/-- A key before the first one is missing. -/
theorem find?_cons_of_lt {k l : String} {v : β} (h : Sorted ((l, v) :: m)) (hk : k < l) :
    find? k ((l, v) :: m) = none := by
  refine find?_eq_none_of_lt fun e he => ?_
  rcases List.mem_cons.mp he with rfl | he
  · exact hk
  · exact String.lt_trans hk ((List.pairwise_cons.mp h).1 e he)

/-- Sorted maps with the same look-ups are the same. -/
theorem Sorted.eq_of_find? {n : Keyed β} (hm : m.Sorted) (hn : n.Sorted)
    (h : ∀ k, m.find? k = n.find? k) : m = n := by
  induction m generalizing n with
  | nil =>
    cases n with
    | nil => rfl
    | cons e n =>
      have hfirst := h e.1
      simp [find?] at hfirst
  | cons d m ih =>
    obtain ⟨k, v⟩ := d
    cases n with
    | nil =>
      have hfirst := h k
      simp [find?] at hfirst
    | cons e n =>
      obtain ⟨l, w⟩ := e
      -- the smaller of the two first keys would be missing on the other side
      have hkl : k = l := by
        by_contra hne
        rcases Decidable.em (k < l) with hlt | hlt
        · have hfirst := h k
          rw [find?_cons_of_lt hn hlt] at hfirst
          simp [find?] at hfirst
        · have hgt : l < k := by
            by_contra hge
            exact hne (String.le_antisymm (String.not_lt.mp hge) (String.not_lt.mp hlt))
          have hfirst := h l
          rw [find?_cons_of_lt hm hgt] at hfirst
          simp [find?] at hfirst
      subst hkl
      obtain ⟨hk, hm⟩ := List.pairwise_cons.mp hm
      obtain ⟨hl, hn⟩ := List.pairwise_cons.mp hn
      have hvw : v = w := by simpa [find?] using h k
      have hrest : m = n := by
        refine ih hm hn fun i => ?_
        by_cases hi : i = k
        · subst hi
          rw [find?_eq_none_of_lt hk, find?_eq_none_of_lt hl]
        · simpa [find?, hi] using h i
      rw [hvw, hrest]

/-- Sorted maps with the same keys have them in the same order. -/
theorem Sorted.keys_eq {n : Keyed γ} (hm : m.Sorted) (hn : n.Sorted)
    (h : ∀ k, has k m = true ↔ has k n = true) : m.keys = n.keys := by
  have hirrefl : Std.Irrefl (fun a b : String => a < b) := ⟨String.lt_irrefl⟩
  have hantisymm : Std.Antisymm (fun a b : String => a < b) :=
    ⟨fun a b hab hba => absurd (String.lt_trans hab hba) (String.lt_irrefl a)⟩
  refine List.Pairwise.eq_of_mem_iff (List.pairwise_map.mpr hm) (List.pairwise_map.mpr hn) ?_
  intro k
  exact (has_iff_mem_keys m k).symm.trans ((h k).trans (has_iff_mem_keys n k))

end Keyed

namespace FieldErrors

variable {errors : FieldErrors}

/-! ## Errors stay sorted -/

theorem sorted_push (h : errors.Sorted) (field message : String) :
    (errors.push field message).Sorted := by
  unfold push
  split
  · exact Keyed.sorted_insert h field _
  · exact Keyed.sorted_insert h field _

theorem sorted_pushAll (h : errors.Sorted) (field : String) (messages : List String) :
    (errors.pushAll field messages).Sorted := by
  unfold pushAll
  induction messages generalizing errors with
  | nil => exact h
  | cons m messages ih => exact ih (sorted_push h field m)

theorem sorted_add (h : errors.Sorted) (field : String) (e : FieldError) :
    (errors.add field e).Sorted := by
  cases e with
  | messages texts => exact sorted_pushAll h field texts
  | nested inner => exact Keyed.sorted_insert h field _

theorem has_of_pushAll {field : String} {messages : List String} {k : String}
    (h : Keyed.has k (errors.pushAll field messages) = true) :
    k = field ∨ Keyed.has k errors = true := by
  unfold pushAll at h
  induction messages generalizing errors with
  | nil => exact .inr h
  | cons m messages ih =>
    rcases ih h with hk | hk
    · exact .inl hk
    · exact (has_push errors field m k).mp hk

/-- An error that says something makes its field one with errors, and no other. -/
theorem has_add_iff {e : FieldError} (h : e.Speaks) (field k : String) :
    Keyed.has k (errors.add field e) = true ↔ k = field ∨ Keyed.has k errors = true := by
  constructor
  · intro hk
    cases e with
    | messages texts => exact has_of_pushAll hk
    | nested inner => exact (Keyed.has_insert errors field k _).mp hk
  · rintro (rfl | hk)
    · exact has_add_self errors k h
    · exact has_add errors field e k hk

end FieldErrors

/-! ## Order of what is found -/

namespace Validation

theorem isOk_iff {v : Validation} : v.isOk = true ↔ ∀ k, ¬ Keyed.has k v.errors = true := by
  unfold isOk
  rw [List.isEmpty_iff]
  constructor
  · intro h k hk
    rw [h] at hk
    exact Bool.false_ne_true hk
  · exact Keyed.eq_nil_of_has

/-- Errors and valid values are in order. -/
structure Ordered (v : Validation) : Prop where
  errors : v.errors.Sorted
  valid : v.valid.Sorted

theorem Ordered.push {v : Validation} (h : v.Ordered) (field message : String) :
    (v.push field message).Ordered :=
  ⟨FieldErrors.sorted_push h.errors field message, h.valid⟩

theorem Ordered.record {v : Validation} (h : v.Ordered) (field : String)
    (result : Except FieldError Json) : (v.record field result).Ordered := by
  cases result with
  | ok value => exact ⟨h.errors, Keyed.sorted_insert h.valid field value⟩
  | error e => exact ⟨FieldErrors.sorted_add h.errors field e, h.valid⟩

end Validation

namespace Contract

variable {complete : Bool} {input : Object} {v : Validation}

theorem ordered_checkOne (h : v.Ordered) (s : FieldSpec) (shape : Shape) :
    (checkOne complete input v s shape).Ordered := by
  unfold checkOne
  split
  · split_ifs
    · exact h.record s.name _
    · exact h.push s.name _
  · exact h.record s.name _
  · cases complete with
    | false => exact h
    | true =>
      rw [if_pos rfl]
      split
      · exact h.record s.name _
      · split_ifs
        · exact h.push s.name _
        · exact h

theorem ordered_checkFields (h : v.Ordered) (fields : List (FieldSpec × Shape)) :
    (checkFields complete input v fields).Ordered := by
  induction fields generalizing v with
  | nil => simpa [checkFields] using h
  | cons e fields ih =>
    rw [checkFields_cons]
    exact ih (ordered_checkOne h e.1 e.2)

theorem ordered_refuseUnknown (names : List String) (input : Object) :
    (refuseUnknown names input).Ordered := by
  have hfold : ∀ (keys : List String) (v : Validation), v.Ordered →
      (keys.foldl (fun v k => if names.contains k then v else v.push k unknownMessage)
        v).Ordered := by
    intro keys
    induction keys with
    | nil => exact fun v hv => hv
    | cons k keys ih =>
      intro v hv
      rw [List.foldl_cons]
      refine ih _ ?_
      split_ifs
      · exact hv
      · exact hv.push k unknownMessage
  exact hfold input.keys Validation.start ⟨List.Pairwise.nil, List.Pairwise.nil⟩

theorem ordered_check (c : Contract) (input : Object) : (c.check input).Ordered :=
  ordered_checkFields (ordered_refuseUnknown c.names input) c.fields

/-! ## One key -/

/-- What a field makes of a value that was sent. -/
def answer (e : FieldSpec × Shape) : Json → Except FieldError Json
  | .null => if e.1.allowNone then .ok .null else .error (.messages [nullMessage])
  | raw => checkValue e.1 e.2 raw

/-- A field of a partial contract is asked if there is a value for it. -/
theorem checkOne_partial (input : Object) (v : Validation) (e : FieldSpec × Shape) :
    checkOne false input v e.1 e.2 =
      match input.find? e.1.name with
      | none => v
      | some raw => v.record e.1.name (answer e raw) := by
  unfold checkOne
  cases input.find? e.1.name with
  | none => rfl
  | some raw =>
    cases raw with
    | null =>
      dsimp only [answer]
      split_ifs
      · rfl
      · rfl
    | _ => rfl

theorem answer_error {e : FieldSpec × Shape} {raw : Json} {err : FieldError}
    (h : answer e raw = .error err) : err.Speaks := by
  cases raw with
  | null =>
    dsimp only [answer] at h
    split_ifs at h
    rw [← Except.error.inj h]
    exact List.cons_ne_nil _ _
  | _ => exact checkValue_error h

/-- The value that the last of the fields of a name that takes a sent value makes of it. -/
def lastTaken : List (FieldSpec × Shape) → String → Json → Option Json
  | [], _, _ => none
  | e :: fields, k, raw =>
    (lastTaken fields k raw).or (if e.1.name = k then (answer e raw).toOption else none)

theorem lastTaken_append (fs gs : List (FieldSpec × Shape)) (k : String) (raw : Json) :
    lastTaken (fs ++ gs) k raw = (lastTaken gs k raw).or (lastTaken fs k raw) := by
  induction fs with
  | nil => exact Option.or_none.symm
  | cons e fs ih => rw [List.cons_append, lastTaken, ih, lastTaken, Option.or_assoc]

theorem lastTaken_of_absent {fields : List (FieldSpec × Shape)} {k : String}
    (h : ∀ e ∈ fields, e.1.name ≠ k) (raw : Json) : lastTaken fields k raw = none := by
  induction fields with
  | nil => rfl
  | cons e fields ih =>
    obtain ⟨he, hrest⟩ := List.forall_mem_cons.mp h
    rw [lastTaken, ih hrest, if_neg he]
    rfl

/-- Fields of other names do not matter. -/
theorem lastTaken_filter {fields : List (FieldSpec × Shape)} {k : String}
    {p : FieldSpec × Shape → Bool} (h : ∀ e ∈ fields, e.1.name = k → p e = true) (raw : Json) :
    lastTaken (fields.filter p) k raw = lastTaken fields k raw := by
  induction fields with
  | nil => rfl
  | cons e fields ih =>
    obtain ⟨he, hrest⟩ := List.forall_mem_cons.mp h
    rw [List.filter_cons, lastTaken, ← ih hrest]
    by_cases hname : e.1.name = k
    · rw [if_pos (he hname), lastTaken]
    · split_ifs
      · rw [lastTaken, if_neg hname]
      · exact Option.or_none.symm

/-! ## All fields -/

theorem has_errors_checkFields (input : Object) (v : Validation)
    (fields : List (FieldSpec × Shape)) (k : String) :
    Keyed.has k (checkFields false input v fields).errors = true ↔
      Keyed.has k v.errors = true ∨
        ∃ raw, input.find? k = some raw ∧
          ∃ e ∈ fields, e.1.name = k ∧ (answer e raw).toOption = none := by
  induction fields generalizing v with
  | nil => simp [checkFields]
  | cons e fields ih =>
    have hone : Keyed.has k (checkOne false input v e.1 e.2).errors = true ↔
        Keyed.has k v.errors = true ∨
          ∃ raw, input.find? k = some raw ∧ e.1.name = k ∧ (answer e raw).toOption = none := by
      rw [checkOne_partial]
      cases hfind : input.find? e.1.name with
      | none =>
        refine ⟨.inl, ?_⟩
        rintro (h | ⟨raw, hraw, rfl, _⟩)
        · exact h
        · rw [hfind] at hraw
          contradiction
      | some raw =>
        dsimp only
        cases hanswer : answer e raw with
        | ok w =>
          refine ⟨.inl, ?_⟩
          rintro (h | ⟨raw', hraw, rfl, hnone⟩)
          · exact h
          · rw [hfind] at hraw
            rw [← Option.some.inj hraw, hanswer] at hnone
            contradiction
        | error err =>
          refine (FieldErrors.has_add_iff (answer_error hanswer) e.1.name k).trans ?_
          constructor
          · rintro (rfl | h)
            · exact .inr ⟨raw, hfind, rfl, by rw [hanswer]; rfl⟩
            · exact .inl h
          · rintro (h | ⟨_, _, rfl, _⟩)
            · exact .inr h
            · exact .inl rfl
    rw [checkFields_cons, ih, hone]
    constructor
    · rintro ((h | ⟨raw, hraw, he⟩) | ⟨raw, hraw, f, hf, hname, hnone⟩)
      · exact .inl h
      · exact .inr ⟨raw, hraw, e, List.mem_cons_self, he⟩
      · exact .inr ⟨raw, hraw, f, List.mem_cons_of_mem e hf, hname, hnone⟩
    · rintro (h | ⟨raw, hraw, f, hf, hname, hnone⟩)
      · exact .inl (.inl h)
      · rcases List.mem_cons.mp hf with rfl | hf
        · exact .inl (.inr ⟨raw, hraw, hname, hnone⟩)
        · exact .inr ⟨raw, hraw, f, hf, hname, hnone⟩

theorem find?_checkFields (input : Object) (v : Validation) (fields : List (FieldSpec × Shape))
    (k : String) :
    (checkFields false input v fields).valid.find? k =
      ((input.find? k).bind (lastTaken fields k)).or (v.valid.find? k) := by
  induction fields generalizing v with
  | nil =>
    have hnone : (input.find? k).bind (lastTaken [] k) = none := by
      cases input.find? k <;> rfl
    rw [hnone, checkFields]
    rfl
  | cons e fields ih =>
    rw [checkFields_cons, ih, checkOne_partial]
    by_cases hname : e.1.name = k
    · subst hname
      cases input.find? e.1.name with
      | none => rfl
      | some raw =>
        dsimp only [Option.bind_some]
        rw [lastTaken, if_pos rfl, Option.or_assoc]
        congr 1
        cases answer e raw with
        | ok w => simp [Validation.record, Keyed.find?_insert, Except.toOption]
        | error err => rfl
    · have hlast : lastTaken (e :: fields) k = lastTaken fields k := by
        funext raw
        rw [lastTaken, if_neg hname, Option.or_none]
      rw [hlast]
      congr 1
      cases input.find? e.1.name with
      | none => rfl
      | some raw =>
        dsimp only
        cases answer e raw with
        | ok w => simp [Validation.record, Keyed.find?_insert, Ne.symm hname]
        | error err => rfl

theorem has_errors_refuseUnknown (names : List String) (input : Object) (k : String) :
    Keyed.has k (refuseUnknown names input).errors = true ↔
      Keyed.has k input = true ∧ k ∉ names := by
  have hfold : ∀ (keys : List String) (v : Validation),
      Keyed.has k (keys.foldl (fun v k => if names.contains k then v else v.push k unknownMessage)
        v).errors = true ↔ Keyed.has k v.errors = true ∨ (k ∈ keys ∧ k ∉ names) := by
    intro keys
    induction keys with
    | nil => simp
    | cons j keys ih =>
      intro v
      rw [List.foldl_cons, ih]
      split_ifs with hj
      · have hj : j ∈ names := by simpa using hj
        constructor
        · rintro (h | ⟨hk, hn⟩)
          · exact .inl h
          · exact .inr ⟨List.mem_cons_of_mem j hk, hn⟩
        · rintro (h | ⟨hk, hn⟩)
          · exact .inl h
          · rcases List.mem_cons.mp hk with rfl | hk
            · exact absurd hj hn
            · exact .inr ⟨hk, hn⟩
      · have hj : j ∉ names := by simpa using hj
        have hpush : Keyed.has k (v.push j unknownMessage).errors = true ↔
            k = j ∨ Keyed.has k v.errors = true := FieldErrors.has_push v.errors j unknownMessage k
        rw [hpush]
        constructor
        · rintro ((rfl | h) | ⟨hk, hn⟩)
          · exact .inr ⟨List.mem_cons_self, hj⟩
          · exact .inl h
          · exact .inr ⟨List.mem_cons_of_mem j hk, hn⟩
        · rintro (h | ⟨hk, hn⟩)
          · exact .inl (.inr h)
          · rcases List.mem_cons.mp hk with rfl | hk
            · exact .inl (.inl rfl)
            · exact .inr ⟨hk, hn⟩
  refine (hfold input.keys Validation.start).trans ?_
  rw [← Keyed.has_iff_mem_keys]
  exact or_iff_right Bool.false_ne_true

variable {c : Contract}

/-- A partial contract refuses the keys it has no field for, and those for which one of the
    fields refuses the value. -/
theorem has_errors_iff (hpart : c.complete = false) (input : Object) (k : String) :
    Keyed.has k (c.check input).errors = true ↔
      ∃ raw, input.find? k = some raw ∧
        (k ∉ c.names ∨ ∃ e ∈ c.fields, e.1.name = k ∧ (answer e raw).toOption = none) := by
  unfold check
  rw [hpart, has_errors_checkFields, has_errors_refuseUnknown, Keyed.has,
    Option.isSome_iff_exists]
  constructor
  · rintro (⟨⟨raw, hraw⟩, hn⟩ | ⟨raw, hraw, he⟩)
    · exact ⟨raw, hraw, .inl hn⟩
    · exact ⟨raw, hraw, .inr he⟩
  · rintro ⟨raw, hraw, hn | he⟩
    · exact .inl ⟨⟨raw, hraw⟩, hn⟩
    · exact .inr ⟨raw, hraw, he⟩

/-- A key has the value that the last of its fields that takes what was sent makes of it. -/
theorem find?_valid (hpart : c.complete = false) (input : Object) (k : String) :
    (c.check input).valid.find? k = (input.find? k).bind (lastTaken c.fields k) := by
  unfold check
  rw [hpart, find?_checkFields, refuseUnknown_valid]
  exact Option.or_none

end Contract

end RowServe
