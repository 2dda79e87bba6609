import RowServe.Proofs.Contract.Pages

/-!
# Contracts on joined objects

A partial contract checks every key for itself: what it finds under a key, valid or wrong, depends
on the value that was sent under this key and on nothing else. Objects that share no key can
therefore be checked apart, and what is found can be joined.

Results:

* `checkOne_agree`, `checkFields_agree`: one field, and all fields, keep the agreement on a key.
* `check_agree`: inputs with the same value under a key are told the same about it.
* `find?_joined`, `check_joined`: what is found in joined objects.
-/

namespace RowServe

namespace FieldErrors

variable {errors others : FieldErrors} {k : String}

/-! ## Errors of one field -/

theorem find?_push_of_ne {field : String} (h : k ≠ field) (message : String) :
    Keyed.find? k (errors.push field message) = Keyed.find? k errors := by
  unfold push
  split
  · rw [Keyed.find?_insert, if_neg h]
  · rw [Keyed.find?_insert, if_neg h]

theorem find?_pushAll_of_ne {field : String} (h : k ≠ field) (messages : List String) :
    Keyed.find? k (errors.pushAll field messages) = Keyed.find? k errors := by
  unfold pushAll
  induction messages generalizing errors with
  | nil => rfl
  | cons m messages ih =>
    rw [List.foldl_cons, ih]
    exact find?_push_of_ne h m

theorem find?_add_of_ne {field : String} (h : k ≠ field) (e : FieldError) :
    Keyed.find? k (errors.add field e) = Keyed.find? k errors := by
  cases e with
  | messages texts => exact find?_pushAll_of_ne h texts
  | nested inner =>
    show Keyed.find? k (Keyed.insert field _ errors) = Keyed.find? k errors
    rw [Keyed.find?_insert, if_neg h]

/-- A message joins what is there for its field, whatever there is for others. -/
theorem find?_push_congr (h : Keyed.find? k errors = Keyed.find? k others)
    (message : String) :
    Keyed.find? k (errors.push k message) = Keyed.find? k (others.push k message) := by
  unfold push
  rw [h]
  split
  · rw [Keyed.find?_insert, Keyed.find?_insert, if_pos rfl, if_pos rfl]
  · rw [Keyed.find?_insert, Keyed.find?_insert, if_pos rfl, if_pos rfl]

theorem find?_pushAll_congr (h : Keyed.find? k errors = Keyed.find? k others)
    (messages : List String) :
    Keyed.find? k (errors.pushAll k messages) = Keyed.find? k (others.pushAll k messages) := by
  unfold pushAll
  induction messages generalizing errors others with
  | nil => exact h
  | cons m messages ih =>
    rw [List.foldl_cons, List.foldl_cons]
    exact ih (find?_push_congr h m)

theorem find?_add_congr (h : Keyed.find? k errors = Keyed.find? k others) (e : FieldError) :
    Keyed.find? k (errors.add k e) = Keyed.find? k (others.add k e) := by
  cases e with
  | messages texts => exact find?_pushAll_congr h texts
  | nested inner =>
    show Keyed.find? k (Keyed.insert k _ errors) = Keyed.find? k (Keyed.insert k _ others)
    rw [Keyed.find?_insert, Keyed.find?_insert, if_pos rfl, if_pos rfl]

end FieldErrors

/-! ## Agreement on a key -/

namespace Validation

/-- Both have found the same under a key, valid or wrong. -/
structure AgreeAt (k : String) (v w : Validation) : Prop where
  errors : Keyed.find? k v.errors = Keyed.find? k w.errors
  valid : v.valid.find? k = w.valid.find? k

variable {k : String} {v w : Validation}

theorem AgreeAt.refl (k : String) (v : Validation) : v.AgreeAt k v := ⟨rfl, rfl⟩

theorem AgreeAt.symm (h : v.AgreeAt k w) : w.AgreeAt k v := ⟨h.errors.symm, h.valid.symm⟩

theorem AgreeAt.trans {x : Validation} (h : v.AgreeAt k w) (h' : w.AgreeAt k x) :
    v.AgreeAt k x := ⟨h.errors.trans h'.errors, h.valid.trans h'.valid⟩

/-- The result for another field does not matter. -/
theorem agree_record_of_ne {field : String} (hne : k ≠ field) (result : Except FieldError Json) :
    (v.record field result).AgreeAt k v := by
  cases result with
  | ok value =>
    refine ⟨rfl, ?_⟩
    show (v.valid.insert field value).find? k = v.valid.find? k
    rw [Keyed.find?_insert, if_neg hne]
  | error e => exact ⟨FieldErrors.find?_add_of_ne hne e, rfl⟩

theorem AgreeAt.record (h : v.AgreeAt k w) (result : Except FieldError Json) :
    (v.record k result).AgreeAt k (w.record k result) := by
  cases result with
  | ok value =>
    refine ⟨h.errors, ?_⟩
    show (v.valid.insert k value).find? k = (w.valid.insert k value).find? k
    rw [Keyed.find?_insert, Keyed.find?_insert, if_pos rfl, if_pos rfl]
  | error e => exact ⟨FieldErrors.find?_add_congr h.errors e, h.valid⟩

end Validation

namespace Contract

open Validation (AgreeAt agree_record_of_ne)

variable {c : Contract} {input input' : Object} {k : String} {v w : Validation}

/-- A field of another name leaves a key alone. -/
theorem checkOne_agree_of_ne {e : FieldSpec × Shape} (hname : k ≠ e.1.name) (input : Object)
    (v : Validation) : (checkOne false input v e.1 e.2).AgreeAt k v := by
  rw [checkOne_partial]
  cases input.find? e.1.name with
  | none => exact .refl k v
  | some raw => exact agree_record_of_ne hname (answer e raw)

theorem checkOne_agree (hsent : input.find? k = input'.find? k) (h : v.AgreeAt k w)
    (e : FieldSpec × Shape) :
    (checkOne false input v e.1 e.2).AgreeAt k (checkOne false input' w e.1 e.2) := by
  by_cases hname : k = e.1.name
  · subst hname
    rw [checkOne_partial, checkOne_partial, hsent]
    cases input'.find? e.1.name with
    | none => exact h
    | some raw => exact h.record (answer e raw)
  · have hleft := checkOne_agree_of_ne hname input v
    have hright := checkOne_agree_of_ne hname input' w
    exact (hleft.trans h).trans hright.symm

theorem checkFields_agree (hsent : input.find? k = input'.find? k) (h : v.AgreeAt k w)
    (fields : List (FieldSpec × Shape)) :
    (checkFields false input v fields).AgreeAt k (checkFields false input' w fields) := by
  induction fields generalizing v w with
  | nil => simpa [checkFields] using h
  | cons e fields ih =>
    rw [checkFields_cons, checkFields_cons]
    exact ih (checkOne_agree hsent h e)

/-! ## Keys that are no fields -/

/-- Other keys do not matter for what is said about an unknown one. -/
theorem find?_refused_of_notMem (names : List String) {keys : List String} (h : k ∉ keys)
    (v : Validation) :
    Keyed.find? k (keys.foldl
        (fun v j => if names.contains j then v else v.push j unknownMessage) v).errors =
      Keyed.find? k v.errors := by
  induction keys generalizing v with
  | nil => rfl
  | cons j keys ih =>
    obtain ⟨hj, hkeys⟩ := not_or.mp (mt List.mem_cons.mpr h)
    rw [List.foldl_cons, ih hkeys]
    split_ifs
    · rfl
    · exact FieldErrors.find?_push_of_ne hj unknownMessage

/-- A key that is no field is told once. -/
theorem find?_refuseUnknown (hinput : input.Sorted) (names : List String) (k : String) :
    Keyed.find? k (refuseUnknown names input).errors =
      if input.has k = true ∧ k ∉ names then some (.messages [unknownMessage]) else none := by
  unfold refuseUnknown
  by_cases hk : input.has k = true
  · have hnodup : input.keys.Nodup := by
      apply List.pairwise_map.mpr
      apply List.Pairwise.imp _ hinput
      intro a b hlt heq
      rw [heq] at hlt
      exact String.lt_irrefl b.1 hlt
    obtain ⟨before, behind, hkeys⟩ := List.append_of_mem ((Keyed.has_iff_mem_keys input k).mp hk)
    rw [hkeys] at hnodup ⊢
    have hbefore : k ∉ before := by
      intro hmem
      exact (List.nodup_append.mp hnodup).2.2 k hmem k List.mem_cons_self rfl
    have hbehind : k ∉ behind := (List.nodup_cons.mp (List.nodup_append.mp hnodup).2.1).1
    rw [List.foldl_append, List.foldl_cons, find?_refused_of_notMem names hbehind]
    have hfresh := find?_refused_of_notMem names hbefore Validation.start
    by_cases hname : k ∈ names
    · rw [if_pos (by simpa using hname), hfresh, if_neg (by simp [hname])]
      rfl
    · rw [if_neg (by simpa using hname), if_pos ⟨hk, hname⟩]
      show Keyed.find? k (FieldErrors.push _ k unknownMessage) = _
      rw [FieldErrors.find?_push_congr hfresh]
      simp [FieldErrors.push, Validation.start, FieldErrors.empty, Keyed.insert, Keyed.find?]
  · have hmem : k ∉ input.keys := mt (Keyed.has_iff_mem_keys input k).mpr hk
    rw [find?_refused_of_notMem names hmem, if_neg (by simp [hk])]
    rfl

/-! ## Whole objects -/

/-- A partial contract tells the same about a key if the same value is sent under it, or none in
    both objects. -/
theorem check_agree (hpart : c.complete = false) (hinput : input.Sorted) (hinput' : input'.Sorted)
    (hsent : input.find? k = input'.find? k) : (c.check input).AgreeAt k (c.check input') := by
  unfold check
  rw [hpart]
  refine checkFields_agree hsent ⟨?_, ?_⟩ c.fields
  · rw [find?_refuseUnknown hinput, find?_refuseUnknown hinput']
    unfold Keyed.has
    rw [hsent]
  · rw [refuseUnknown_valid, refuseUnknown_valid]

/-- Nothing is found under a key that is not sent. -/
theorem check_absent (hpart : c.complete = false) (h : input.find? k = none) :
    Keyed.find? k (c.check input).errors = none ∧ (c.check input).valid.find? k = none := by
  constructor
  · have hnot : ¬ Keyed.has k (c.check input).errors = true := by
      rw [has_errors_iff hpart]
      rintro ⟨raw, hraw, _⟩
      rw [h] at hraw
      contradiction
    simpa [Keyed.has] using hnot
  · rw [find?_valid hpart, h]
    rfl

/-- Each key is sent in one of two objects only, and the other one finds nothing under it. -/
theorem find?_joined (hpart : c.complete = false) {m n : Object} (hm : m.Sorted) (hn : n.Sorted)
    (hapart : ∀ k, ¬ (Keyed.has k m = true ∧ Keyed.has k n = true)) (k : String) :
    Keyed.find? k (c.check (m.union n)).errors =
        (Keyed.find? k (c.check n).errors).or (Keyed.find? k (c.check m).errors) ∧
      (c.check (m.union n)).valid.find? k =
        ((c.check n).valid.find? k).or ((c.check m).valid.find? k) := by
  have hjoined : (m.union n).Sorted := Keyed.sorted_union hm n
  have hone : n.find? k = none ∨ m.find? k = none := by
    by_contra hnot
    obtain ⟨hin, him⟩ := not_or.mp hnot
    exact hapart k ⟨Option.isSome_iff_ne_none.mpr him, Option.isSome_iff_ne_none.mpr hin⟩
  rcases hone with hnone | hnone
  · have hsent : (m.union n).find? k = m.find? k := by
      rw [Keyed.find?_union m hn, hnone, Option.none_or]
    have hagree := check_agree hpart hjoined hm hsent
    obtain ⟨herrors, hvalid⟩ := check_absent hpart hnone
    rw [herrors, hvalid, Option.none_or, Option.none_or]
    exact ⟨hagree.errors, hagree.valid⟩
  · have hsent : (m.union n).find? k = n.find? k := by
      rw [Keyed.find?_union m hn, hnone, Option.or_none]
    have hagree := check_agree hpart hjoined hn hsent
    obtain ⟨herrors, hvalid⟩ := check_absent hpart hnone
    rw [herrors, hvalid, Option.or_none, Option.or_none]
    exact ⟨hagree.errors, hagree.valid⟩

/-- A partial contract checks joined objects without common keys as it checks each of them: the
    errors are the errors of both, what is valid is what is valid in either, and the whole is
    accepted exactly if both are. No key goes untold, and each is told about as if it had been
    sent alone. -/
theorem check_joined (hpart : c.complete = false) {m n : Object} (hm : m.Sorted) (hn : n.Sorted)
    (hapart : ∀ k, ¬ (Keyed.has k m = true ∧ Keyed.has k n = true)) :
    (c.check (m.union n)).errors = (c.check m).errors.union (c.check n).errors ∧
      (c.check (m.union n)).valid = (c.check m).valid.union (c.check n).valid ∧
      ((∃ valid, c.validate (m.union n) = .ok valid) ↔
        (∃ valid, c.validate m = .ok valid) ∧ ∃ valid, c.validate n = .ok valid) ∧
      ∀ k raw, (m.union n).find? k = some raw →
        (c.check (m.union n)).Tells k ∧
          (c.check (m.union n)).AgreeAt k (c.check [(k, raw)]) := by
  have hjoined : (m.union n).Sorted := Keyed.sorted_union hm n
  have hordered := c.ordered_check (m.union n)
  have hfound := find?_joined hpart hm hn hapart
  have herrors : (c.check (m.union n)).errors = (c.check m).errors.union (c.check n).errors := by
    apply hordered.errors.eq_of_find?
      (Keyed.sorted_union (c.ordered_check m).errors _)
    intro k
    rw [(hfound k).1, Keyed.find?_union _ (c.ordered_check n).errors]
  have hvalid : (c.check (m.union n)).valid = (c.check m).valid.union (c.check n).valid := by
    apply hordered.valid.eq_of_find? (Keyed.sorted_union (c.ordered_check m).valid _)
    intro k
    rw [(hfound k).2, Keyed.find?_union _ (c.ordered_check n).valid]
  refine ⟨herrors, hvalid, ?_, ?_⟩
  · have hok (input : Object) :
        (∃ valid, c.validate input = .ok valid) ↔ (c.check input).errors = [] :=
      Validation.accepted_iff (c.check input)
    rw [hok, hok, hok, herrors]
    exact FieldErrors.union_eq_nil_iff _ _
  · intro k raw hraw
    have hsent : Keyed.has k (m.union n) = true := Option.isSome_iff_exists.mpr ⟨raw, hraw⟩
    refine ⟨check_keys hsent, check_agree hpart hjoined (List.pairwise_singleton _ _) ?_⟩
    rw [hraw]
    simp [Keyed.find?]

/-- A part of a product: its name, and its producer by key or by name. -/
def productPart : Contract :=
  let field (name : String) (t : ValueType) : FieldSpec :=
    { name := name, valueType := t, items := none, allowNone := false, required := true
      missing := none, rule := .any, pattern := none }
  ⟨false, [(field "name" .string, .plain),
    (field "producer" .integer, .lookup false [(field "name" .string, .plain)])]⟩

/-- An unknown key and a producer without a name that counts, joined with a name that is valid. -/
theorem product_joined :
    let m : Object := [("age", .ofInt 7), ("producer", .obj [("age", .null), ("name", .null)])]
    let n : Object := [("name", .str "Lamp")]
    (productPart.check (m.union n)).errors.toJson =
        .obj [("age", .arr [.str unknownMessage]),
          ("producer", .obj [("age", .arr [.str unknownMessage]),
            ("name", .arr [.str nullMessage])])] ∧
      (productPart.check (m.union n)).valid = n ∧
      ¬ ∃ valid, productPart.validate (m.union n) = .ok valid := by
  intro m n
  have hapart (k : String) : ¬ (Keyed.has k m = true ∧ Keyed.has k n = true) := by
    rw [Keyed.has_iff_mem_keys, Keyed.has_iff_mem_keys]
    rintro ⟨hm, hn⟩
    obtain rfl := List.mem_singleton.mp hn
    exact absurd hm (by decide)
  have hm : m.Sorted := Keyed.sorted_ofList m
  have hn : n.Sorted := List.pairwise_singleton _ _
  obtain ⟨herrors, hvalid, haccepted, _⟩ := check_joined (c := productPart) rfl hm hn hapart
  refine ⟨?_, ?_, ?_⟩
  · rw [herrors]
    decide +kernel
  · rw [hvalid]
    decide +kernel
  · rw [haccepted]
    rintro ⟨⟨valid, hok⟩, _⟩
    have hnone : (productPart.validate m).toOption = none := by decide +kernel
    rw [hok] at hnone
    contradiction

end Contract

end RowServe
