import Mathlib.Data.List.Nodup
import RowServe.Proofs.Store.Cleanup

/-!
# Dependent columns by table

A clean-up updates each dependent table once, and sets each of its dependent columns once,
however often a column is listed. Tables are taken one after the other, so the updates for
dependents of one table do not depend on what is listed for other tables.

Results:

* `grouped_ofList`: tables and columns are listed once.
* `labels_nodup_iff`: when the entries of the summary have names of their own.
* `ofList_flatMap`, `ofList_perm`: the dependents of different tables, in any order.
-/

namespace RowServe.DependentTable

/-- Tables that are listed once, each with its columns listed once. -/
structure Grouped (ts : List DependentTable) : Prop where
  tables : (ts.map (·.table)).Nodup
  columns : ∀ t ∈ ts, t.columns.Nodup

theorem tables_add (d : Dependent) (ts : List DependentTable) :
    (add d ts).map (·.table) =
      if d.table ∈ ts.map (·.table) then ts.map (·.table)
      else ts.map (·.table) ++ [d.table] := by
  induction ts with
  | nil => rfl
  | cons t ts ih =>
    unfold add
    by_cases ht : t.table = d.table
    · rw [if_pos ht, List.map_cons, List.map_cons, if_pos (List.mem_cons.mpr (.inl ht.symm))]
      by_cases hc : d.column ∈ t.columns
      · rw [if_pos hc]
      · rw [if_neg hc]
    · have hne : d.table ≠ t.table := fun h => ht h.symm
      rw [if_neg ht, List.map_cons, ih, List.map_cons]
      by_cases hmem : d.table ∈ ts.map (·.table)
      · rw [if_pos hmem, if_pos (List.mem_cons_of_mem _ hmem)]
      · rw [if_neg hmem, if_neg fun h => (List.mem_cons.mp h).elim hne hmem]
        rfl

theorem columns_add (d : Dependent) {ts : List DependentTable}
    (h : ∀ t ∈ ts, t.columns.Nodup) : ∀ t ∈ add d ts, t.columns.Nodup := by
  induction ts with
  | nil =>
    intro t ht
    rw [List.mem_singleton.mp ht]
    exact List.nodup_singleton _
  | cons u ts ih =>
    obtain ⟨hu, hts⟩ := List.forall_mem_cons.mp h
    intro t ht
    unfold add at ht
    split_ifs at ht with _ hc
    · rcases List.mem_cons.mp ht with rfl | ht
      · exact hu
      · exact hts t ht
    · rcases List.mem_cons.mp ht with rfl | ht
      · exact List.concat_eq_append ▸ hu.concat hc
      · exact hts t ht
    · rcases List.mem_cons.mp ht with rfl | ht
      · exact hu
      · exact ih hts t ht

theorem Grouped.add {ts : List DependentTable} (h : Grouped ts) (d : Dependent) :
    Grouped (add d ts) := by
  refine ⟨?_, columns_add d h.columns⟩
  rw [tables_add]
  split_ifs with hmem
  · exact h.tables
  · exact List.concat_eq_append ▸ h.tables.concat hmem

/-- Every table is listed once, and every column of it. -/
theorem grouped_ofList (ds : List Dependent) : Grouped (ofList ds) := by
  have hfold : ∀ (es : List Dependent) (ts : List DependentTable), Grouped ts →
      Grouped (es.foldl (fun ts d => DependentTable.add d ts) ts) := by
    intro es
    induction es with
    | nil => exact fun ts h => h
    | cons e es ih => exact fun ts h => ih _ (h.add e)
  exact hfold ds [] ⟨List.nodup_nil, by simp⟩

/-! ## Names in the summary -/

/-- The columns with their tables. -/
def pairs (ts : List DependentTable) : List (String × String) :=
  ts.flatMap fun t => t.columns.map (t.table, ·)

/-- The names of the entries of the summary. -/
def labels (ts : List DependentTable) : List String :=
  ts.flatMap fun t => t.places.map fun p => t.table ++ "." ++ p.1

theorem labels_eq (ts : List DependentTable) :
    labels ts = (pairs ts).map fun p => p.1 ++ "." ++ p.2 := by
  unfold labels pairs
  rw [List.map_flatMap]
  refine congrArg (List.flatMap · ts) (funext fun t => ?_)
  rw [List.map_map, ← places_columns, List.map_map]
  rfl

theorem Grouped.pairs_nodup {ts : List DependentTable} (h : Grouped ts) : (pairs ts).Nodup := by
  unfold pairs
  rw [List.nodup_flatMap]
  refine ⟨fun t ht => ?_, ?_⟩
  · exact (List.nodup_map_iff fun c e he => (Prod.mk.inj he).2).mpr (h.columns t ht)
  · refine (List.pairwise_map.mp h.tables).imp ?_
    intro t u hne p hp hq
    obtain ⟨_, _, rfl⟩ := List.mem_map.mp hp
    obtain ⟨_, _, he⟩ := List.mem_map.mp hq
    exact hne (Prod.mk.inj he).1.symm

theorem mem_pairs_add (d : Dependent) (ts : List DependentTable) (p : String × String) :
    p ∈ pairs (add d ts) ↔ p ∈ pairs ts ∨ p = (d.table, d.column) := by
  have hcons (t : DependentTable) (ts : List DependentTable) :
      pairs (t :: ts) = t.columns.map (t.table, ·) ++ pairs ts := rfl
  induction ts with
  | nil => simp [pairs, add]
  | cons t ts ih =>
    unfold add
    by_cases ht : t.table = d.table
    · rw [if_pos ht]
      by_cases hc : d.column ∈ t.columns
      · rw [if_pos hc]
        refine (or_iff_left_of_imp ?_).symm
        rintro rfl
        rw [hcons]
        exact List.mem_append_left _ (List.mem_map.mpr ⟨d.column, hc, by rw [ht]⟩)
      · rw [if_neg hc, hcons, hcons, List.map_append, List.map_singleton, ht]
        simp only [List.mem_append, List.mem_singleton]
        tauto
    · rw [if_neg ht, hcons, hcons, List.mem_append, List.mem_append, or_assoc]
      exact or_congr_right ih

/-- The columns that are set are those that are listed. -/
theorem mem_pairs {ds : List Dependent} {p : String × String} :
    p ∈ pairs (ofList ds) ↔ ∃ d ∈ ds, p = (d.table, d.column) := by
  have hfold : ∀ (es : List Dependent) (ts : List DependentTable),
      p ∈ pairs (es.foldl (fun ts d => DependentTable.add d ts) ts) ↔
        p ∈ pairs ts ∨ ∃ d ∈ es, p = (d.table, d.column) := by
    intro es
    induction es with
    | nil => simp
    | cons e es ih =>
      intro ts
      rw [List.foldl_cons, ih, mem_pairs_add, or_assoc]
      simp only [List.mem_cons, exists_eq_or_imp]
  rw [ofList, hfold]
  exact or_iff_right List.not_mem_nil

/-- The entries of the summary have names of their own exactly if no two dependent columns are
    written alike with a dot between table and column. -/
theorem labels_nodup_iff (ds : List Dependent) :
    (labels (ofList ds)).Nodup ↔
      ∀ d ∈ ds, ∀ e ∈ ds, d.table ++ "." ++ d.column = e.table ++ "." ++ e.column →
        d.table = e.table ∧ d.column = e.column := by
  rw [labels_eq, List.nodup_map_iff_inj_on (grouped_ofList ds).pairs_nodup]
  constructor
  · intro h d hd e he hlabel
    exact Prod.mk.inj (h _ (mem_pairs.mpr ⟨d, hd, rfl⟩) _ (mem_pairs.mpr ⟨e, he, rfl⟩) hlabel)
  · intro h p hp q hq hlabel
    obtain ⟨d, hd, rfl⟩ := mem_pairs.mp hp
    obtain ⟨e, he, rfl⟩ := mem_pairs.mp hq
    obtain ⟨htable, hcolumn⟩ := h d hd e he hlabel
    rw [htable, hcolumn]

/-! ## Dependents of different tables -/

theorem add_append {d : Dependent} {ts : List DependentTable} (h : ∀ t ∈ ts, t.table ≠ d.table)
    (us : List DependentTable) : add d (ts ++ us) = ts ++ add d us := by
  induction ts with
  | nil => rfl
  | cons t ts ih =>
    obtain ⟨ht, hts⟩ := List.forall_mem_cons.mp h
    rw [List.cons_append, add, if_neg ht, ih hts, List.cons_append]

theorem foldl_append {ds : List Dependent} {ts : List DependentTable}
    (h : ∀ d ∈ ds, ∀ t ∈ ts, t.table ≠ d.table) (us : List DependentTable) :
    ds.foldl (fun ts d => DependentTable.add d ts) (ts ++ us) =
      ts ++ ds.foldl (fun ts d => DependentTable.add d ts) us := by
  induction ds generalizing us with
  | nil => rfl
  | cons d ds ih =>
    obtain ⟨hd, hds⟩ := List.forall_mem_cons.mp h
    rw [List.foldl_cons, List.foldl_cons, add_append hd, ih hds]

/-- The table of an entry is listed. -/
theorem table_listed {ds : List Dependent} {t : DependentTable} (ht : t ∈ ofList ds) :
    ∃ d ∈ ds, t.table = d.table := by
  obtain ⟨⟨d, hd, htable, _⟩, _⟩ := from_ofList ds t ht
  exact ⟨d, hd, htable⟩

theorem ofList_append {ds es : List Dependent} (h : ∀ d ∈ ds, ∀ e ∈ es, d.table ≠ e.table) :
    ofList (ds ++ es) = ofList ds ++ ofList es := by
  have happart : ∀ e ∈ es, ∀ t ∈ ofList ds, t.table ≠ e.table := by
    intro e he t ht htable
    obtain ⟨d, hd, hd'⟩ := table_listed ht
    exact h d hd e he (hd'.symm.trans htable)
  have hfold := foldl_append happart []
  rw [List.append_nil] at hfold
  unfold ofList
  rw [List.foldl_append]
  exact hfold

variable {α : Type} {f : α → List Dependent}

/-- The dependents of different tables are grouped one after the other. -/
theorem ofList_flatMap {as : List α}
    (h : as.Pairwise fun a b => ∀ d ∈ f a, ∀ e ∈ f b, d.table ≠ e.table) :
    ofList (as.flatMap f) = as.flatMap fun a => ofList (f a) := by
  induction as with
  | nil => rfl
  | cons a as ih =>
    obtain ⟨ha, has⟩ := List.pairwise_cons.mp h
    rw [List.flatMap_cons, ofList_append, ih has, List.flatMap_cons]
    intro d hd e he
    obtain ⟨b, hb, he⟩ := List.mem_flatMap.mp he
    exact ha b hb d hd e he

/-- The order of different tables is only the order of their updates. -/
theorem ofList_perm {as bs : List α} (hperm : as.Perm bs)
    (h : as.Pairwise fun a b => ∀ d ∈ f a, ∀ e ∈ f b, d.table ≠ e.table) :
    (ofList (as.flatMap f)).Perm (ofList (bs.flatMap f)) := by
  have hbs : bs.Pairwise fun a b => ∀ d ∈ f a, ∀ e ∈ f b, d.table ≠ e.table :=
    (hperm.pairwise_iff fun hab d hd e he htable => hab e he d hd htable.symm).mp h
  rw [ofList_flatMap h, ofList_flatMap hbs]
  exact hperm.flatMap_right _

end RowServe.DependentTable
