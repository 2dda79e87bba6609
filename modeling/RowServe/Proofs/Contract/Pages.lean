import RowServe.Contract.Pagination
import RowServe.Proofs.Contract.Fieldwise

/-!
# The page of a list request

Page, limit, order and direction are read one by one, and each is told in errors of its own.
A page is given if none of them has any and the offset is one that SQL takes.

Results:

* `validate_ok_iff`: when a page is given, and which one it is.
* `says_page_iff`, `says_limit_iff`: what is told about the number of the page and the limit.
-/

namespace RowServe

namespace FieldErrors

/-- The message stands among those of the field. -/
def Says (errors : FieldErrors) (field message : String) : Prop :=
  ∃ texts, Keyed.find? field errors = some (.messages texts) ∧ message ∈ texts

theorem says_push_iff (errors : FieldErrors) (field message k m : String) :
    (errors.push field message).Says k m ↔ (k = field ∧ m = message) ∨ errors.Says k m := by
  unfold Says push
  by_cases hk : k = field
  · subst hk
    split
    · rename_i texts htexts
      simp [Keyed.find?_insert, htexts, or_comm]
    · rename_i hother
      have hnone : ∀ texts, ¬ (Keyed.find? k errors = some (.messages texts) ∧ m ∈ texts) :=
        fun texts h => hother texts h.1
      simp [Keyed.find?_insert, hnone]
  · split
    all_goals simp [Keyed.find?_insert, hk]

/-- At most one message, and that for this field. -/
def OnlyAt (field : String) (errors : FieldErrors) : Prop :=
  errors = .empty ∨ ∃ message, errors = .single field message

variable {field : String} {errors : FieldErrors}

theorem single_ne_nil (field message : String) : single field message ≠ [] :=
  List.cons_ne_nil (field, FieldError.messages [message]) []

theorem OnlyAt.sorted (h : errors.OnlyAt field) : errors.Sorted := by
  rcases h with rfl | ⟨message, rfl⟩
  · exact List.Pairwise.nil
  · exact List.pairwise_singleton _ _

theorem OnlyAt.find?_of_ne (h : errors.OnlyAt field) {k : String} (hk : k ≠ field) :
    Keyed.find? k errors = none := by
  rcases h with rfl | ⟨message, rfl⟩
  · rfl
  · exact if_neg hk

/-- Joined errors are no errors if neither part has any. -/
theorem union_eq_nil_iff (m n : FieldErrors) : m.union n = [] ↔ m = [] ∧ n = [] := by
  have hnone (e : FieldErrors) : e = [] ↔ ∀ k, ¬ Keyed.has k e = true := by
    refine ⟨fun h k => ?_, Keyed.eq_nil_of_has⟩
    rw [h]
    exact Bool.false_ne_true
  rw [hnone, hnone m, hnone n, ← forall_and]
  exact forall_congr' fun k => by rw [Keyed.has_union, not_or]

end FieldErrors

namespace PaginationContract

variable (c : PaginationContract) (query : Object)

/-- The message for a page beyond the greatest offset. -/
def outOfRange : String := "Page is out of range."

/-- The page that the parts of the query ask for. -/
def asked : PageSpec :=
  ⟨(pageOf (query.find? "page")).2, (limitOf (query.find? "limit")).2,
    (c.orderByOf (query.find? "order_by")).2, (orderDirOf (query.find? "order_dir")).2⟩

/-- What is wrong with the parts of the query. -/
def found : FieldErrors :=
  (((pageOf (query.find? "page")).1.union (limitOf (query.find? "limit")).1).union
    (c.orderByOf (query.find? "order_by")).1).union (orderDirOf (query.find? "order_dir")).1

theorem validate_eq :
    (c.validate query).1 =
      let errors := match (c.asked query).offset? with
        | some _ => c.found query
        | none => (c.found query).push "page" outOfRange
      if errors.isEmpty then .ok (c.asked query) else .error errors := rfl

/-! ## Parts -/

theorem pageOf_onlyAt (sent : Option Json) : (pageOf sent).1.OnlyAt "page" := by
  unfold pageOf
  split
  · exact .inl rfl
  · split
    · split_ifs
      · exact .inl rfl
      · exact .inr ⟨_, rfl⟩
    · exact .inr ⟨_, rfl⟩

theorem limitOf_onlyAt (sent : Option Json) : (limitOf sent).1.OnlyAt "limit" := by
  unfold limitOf
  split
  · exact .inl rfl
  · split
    · split_ifs
      · exact .inl rfl
      · exact .inr ⟨_, rfl⟩
    · exact .inr ⟨_, rfl⟩

theorem orderByOf_onlyAt (sent : Option Json) : (c.orderByOf sent).1.OnlyAt "order_by" := by
  unfold orderByOf
  split
  · exact .inl rfl
  · dsimp only
    split_ifs
    · exact .inr ⟨_, rfl⟩
    · exact .inl rfl
    · exact .inr ⟨_, rfl⟩

/-- The accepted names are the usual ones, or some of those that are allowed. -/
theorem orderByOf_accepted {sent : Option Json} (h : (c.orderByOf sent).1 = []) :
    (c.orderByOf sent).2 = c.default ∨
      ((c.orderByOf sent).2 ≠ [] ∧ ∀ n ∈ (c.orderByOf sent).2, n ∈ c.allowed) := by
  unfold orderByOf at h ⊢
  cases sent with
  | none => exact .inl rfl
  | some raw =>
    refine .inr ?_
    dsimp only at h ⊢
    split_ifs at h ⊢ with hempty hall
    · exact absurd h (FieldErrors.single_ne_nil _ _)
    · exact ⟨fun hnil => hempty (List.isEmpty_iff.mpr hnil), fun n hn =>
        List.contains_iff_mem.mp (List.all_eq_true.mp hall n hn)⟩
    · exact absurd h (FieldErrors.single_ne_nil _ _)

theorem orderDirOf_onlyAt (sent : Option Json) : (orderDirOf sent).1.OnlyAt "order_dir" := by
  unfold orderDirOf
  split
  · exact .inl rfl
  · split
    · exact .inl rfl
    · exact .inl rfl
    · exact .inr ⟨_, rfl⟩

theorem found_page :
    Keyed.find? "page" (c.found query) =
      Keyed.find? "page" (pageOf (query.find? "page")).1 := by
  unfold found
  rw [Keyed.find?_union _ (orderDirOf_onlyAt _).sorted,
    (orderDirOf_onlyAt _).find?_of_ne (by decide),
    Keyed.find?_union _ (c.orderByOf_onlyAt _).sorted,
    (c.orderByOf_onlyAt _).find?_of_ne (by decide),
    Keyed.find?_union _ (limitOf_onlyAt _).sorted, (limitOf_onlyAt _).find?_of_ne (by decide)]
  rfl

theorem found_limit :
    Keyed.find? "limit" (c.found query) =
      Keyed.find? "limit" (limitOf (query.find? "limit")).1 := by
  unfold found
  rw [Keyed.find?_union _ (orderDirOf_onlyAt _).sorted,
    (orderDirOf_onlyAt _).find?_of_ne (by decide),
    Keyed.find?_union _ (c.orderByOf_onlyAt _).sorted,
    (c.orderByOf_onlyAt _).find?_of_ne (by decide),
    Keyed.find?_union _ (limitOf_onlyAt _).sorted, (pageOf_onlyAt _).find?_of_ne (by decide)]
  exact Option.or_none

/-! ## The whole -/

/-- A page is given if each part is as it should be and the offset is in range; it is the page
    asked for. -/
theorem validate_ok_iff (page : PageSpec) :
    (c.validate query).1 = .ok page ↔
      page = c.asked query ∧ page.offset?.isSome = true ∧
        (pageOf (query.find? "page")).1 = [] ∧ (limitOf (query.find? "limit")).1 = [] ∧
        (c.orderByOf (query.find? "order_by")).1 = [] ∧
        (orderDirOf (query.find? "order_dir")).1 = [] := by
  have hfound : c.found query = [] ↔ (pageOf (query.find? "page")).1 = [] ∧
      (limitOf (query.find? "limit")).1 = [] ∧ (c.orderByOf (query.find? "order_by")).1 = [] ∧
      (orderDirOf (query.find? "order_dir")).1 = [] := by
    unfold found
    rw [FieldErrors.union_eq_nil_iff, FieldErrors.union_eq_nil_iff, FieldErrors.union_eq_nil_iff,
      and_assoc, and_assoc]
  rw [validate_eq, ← hfound]
  dsimp only
  cases hoffset : (c.asked query).offset? with
  | some n =>
    dsimp only
    split_ifs with hempty
    · refine ⟨fun h => ?_, fun h => by rw [h.1]⟩
      rw [← Except.ok.inj h]
      exact ⟨rfl, by rw [hoffset]; rfl, List.isEmpty_iff.mp hempty⟩
    · exact ⟨fun h => by contradiction, fun h => absurd (List.isEmpty_iff.mpr h.2.2) hempty⟩
  | none =>
    dsimp only
    have hpushed : ¬ List.isEmpty ((c.found query).push "page" outOfRange) = true := by
      rw [List.isEmpty_iff]
      intro hnil
      have hmem := FieldErrors.mem_keys_push (c.found query) "page" outOfRange
      rw [hnil] at hmem
      contradiction
    rw [if_neg hpushed]
    refine ⟨fun h => by contradiction, fun ⟨hpage, hsome, _⟩ => ?_⟩
    rw [hpage, hoffset] at hsome
    contradiction

/-- A message for another field than the page comes from the parts alone, and so does one for
    the page that is not about the offset. -/
theorem error_says_iff {k m : String} (h : ¬ (k = "page" ∧ m = outOfRange)) :
    (∃ errors, (c.validate query).1 = .error errors ∧ errors.Says k m) ↔
      (c.found query).Says k m := by
  have hsome {errors : FieldErrors} (htold : errors.Says k m) : ¬ errors.isEmpty = true := by
    rw [List.isEmpty_iff]
    rintro rfl
    obtain ⟨_, hnone, _⟩ := htold
    contradiction
  have hsplit (errors : FieldErrors) : (∃ errors', (if errors.isEmpty then
      .ok (c.asked query) else .error errors : Except FieldErrors PageSpec) = .error errors' ∧
      errors'.Says k m) ↔ errors.Says k m := by
    constructor
    · rintro ⟨errors', heq, htold⟩
      split_ifs at heq
      rwa [Except.error.inj heq]
    · exact fun htold => ⟨errors, if_neg (hsome htold), htold⟩
  rw [validate_eq]
  dsimp only
  rw [hsplit]
  split
  · rfl
  · rw [FieldErrors.says_push_iff]
    exact or_iff_right h

theorem says_page_iff {m : String} (h : m ≠ outOfRange) :
    (∃ errors, (c.validate query).1 = .error errors ∧ errors.Says "page" m) ↔
      (pageOf (query.find? "page")).1.Says "page" m := by
  rw [error_says_iff c query fun hm => h hm.2, FieldErrors.Says, found_page]
  rfl

theorem says_limit_iff (m : String) :
    (∃ errors, (c.validate query).1 = .error errors ∧ errors.Says "limit" m) ↔
      (limitOf (query.find? "limit")).1.Says "limit" m := by
  rw [error_says_iff c query fun hm => absurd hm.1 (by decide), FieldErrors.Says, found_limit]
  rfl

end PaginationContract

end RowServe
