import RowServe.Proofs.Declaration.Plain
import RowServe.Proofs.Resource.Joins
import RowServe.Proofs.Resource.Uses
import RowServe.Proofs.Sql.Meaning
import RowServe.Request.Filter

/-!
# Reading and writing the same rows

A filter selects rows for statements that read and for statements that write. Both ask the
same of a row itself, but a linked row is looked for through a join in the first case and
through a subquery in the second. A join puts a row of nulls beside a row that refers to
nothing, and an object that asks for nothing but nulls takes it for a linked row.

Results:

* `finds_iff`, `touches_iff`: what a statement that reads, or writes, asks of a row.
* `same_rows_iff`: when both select the same rows.
-/

namespace RowServe

open RowServe.Filter (Reading comparisonAt conjunctsAt entriesOf entryAt linkedAt linkedParam
  reading)
open Sql (Binds Comparison Condition)

variable {V : Type}

namespace Database

variable (db : Database V) (b : Binds)

/-- Does a linked row have what an object for it has under a key? Null asks for null. -/
def has (j : Join) (u : Row V) (e : String × Json) : Truth :=
  if e.2.isNull then some (u e.1).isNone
  else db.equal (u e.1)
    (db.param (b.place (j.field ++ "_" ++ e.1) (linkedParam (j.casts.find? e.1) e.2).2))

/-- A linked row has all of an object. -/
def Fits (j : Join) (entries : Object) (u : Row V) : Prop :=
  ∀ e ∈ entries, db.has b j u e = some true

variable {db b}

/-- Only null is found in a row of nulls. -/
theorem fits_nulls {j : Join} {entries : Object} :
    db.Fits b j entries Row.nulls ↔ ∀ e ∈ entries, e.2.isNull = true := by
  unfold Fits
  refine forall₂_congr fun e _ => ?_
  unfold has
  split_ifs with h
  · simp [h, Row.nulls]
  · simp [h, Row.nulls, equal]

/-- A row beside another one fits if a row that it refers to does, or if there is none and
    only nulls are asked for. -/
theorem exists_joined_fits {j : Join} {entries : Object} {row : Row V} :
    (∃ u ∈ db.joined j row, db.Fits b j entries u) ↔
      (∃ u ∈ db.partners j row, db.Fits b j entries u) ∨
        (db.partners j row = [] ∧ ∀ e ∈ entries, e.2.isNull = true) := by
  simp only [mem_joined, or_and_right, exists_or, and_assoc, exists_and_left, exists_eq_left,
    fits_nulls]

/-- A filter has at most one object for a join, so one row beside another one fits all that
    the filter has for the join. -/
theorem exists_joined_all {filter : Object} {j : Join} {row : Row V}
    (h : ∀ entries, filter.find? j.field = some (.obj entries) →
      ∃ u ∈ db.joined j row, db.Fits b j entries u) :
    ∃ u ∈ db.joined j row, ∀ entries, filter.find? j.field = some (.obj entries) →
      db.Fits b j entries u := by
  by_cases hsome : ∃ entries, filter.find? j.field = some (.obj entries)
  · obtain ⟨entries, hfind⟩ := hsome
    obtain ⟨u, hu, hfit⟩ := h entries hfind
    refine ⟨u, hu, fun entries' hfind' => ?_⟩
    rw [hfind] at hfind'
    rwa [← Json.obj.inj (Option.some.inj hfind')]
  · obtain ⟨u, hu⟩ := List.exists_mem_of_ne_nil _ (joined_ne_nil db j row)
    exact ⟨u, hu, fun entries hfind => absurd ⟨entries, hfind⟩ hsome⟩

theorem compare_comparisonAt (s : Scope V) (source : String) (j : Join) (e : String × Json) :
    db.compare s (comparisonAt b source j.field j.casts e.1 e.2) = db.has b j (s source) e := by
  unfold comparisonAt has
  split_ifs
  · rfl
  · rfl

/-- The conditions through a join ask for a joined row that fits. -/
theorem select_linked {j : Join} {x : Sql.Operand} {entries : Object} {row : Row V}
    {s : Scope V} :
    (∀ c ∈ linkedAt b j x .select entries, db.truth row s c = some true) ↔
      db.Fits b j entries (s j.aliasName) := by
  simp only [linkedAt, List.forall_mem_map, truth, compare_comparisonAt]
  rfl

theorem mem_passing {j : Join} {entries : Object} {u : Row V} :
    u ∈ db.passing j.table
        (entries.map fun e => comparisonAt b j.table j.field j.casts e.1 e.2) ↔
      u ∈ db.rows j.table ∧ db.Fits b j entries u := by
  unfold passing
  rw [List.mem_filter, decide_eq_true_eq, Truth.all_eq_true, List.map_map, List.forall_mem_map]
  simp only [Function.comp_apply, compare_comparisonAt, Function.update_self]
  rfl

/-- The condition with a subquery asks for a row that fits, among those referred to. -/
theorem mutate_linked {view : TableView} {j : Join} {entries : Object} {row : Row V} :
    (∀ c ∈ linkedAt b j (.column view.table j.field) .mutate entries,
        db.truth row (alone view.table row) c = some true) ↔
      (entries ≠ [] → ∃ u ∈ db.partners j row, db.Fits b j entries u) := by
  unfold linkedAt
  cases entries with
  | nil => simp
  | cons e es =>
    have hvalue : db.value (alone view.table row) (.column view.table j.field) = row j.field := by
      show Function.update (fun _ => Row.nulls) view.table row view.table j.field = row j.field
      rw [Function.update_self]
    simp only [List.isEmpty_cons, Bool.false_eq_true, if_false, List.mem_singleton, forall_eq,
      ne_eq, reduceCtorEq, not_false_eq_true, true_implies, truth, Truth.any_eq_true, List.mem_map,
      exists_exists_and_eq_and, hvalue, mem_passing, partners, List.mem_filter, decide_eq_true_eq]
    refine exists_congr fun u => ?_
    rw [equal_comm (row j.field), and_assoc, and_assoc, and_comm (a := db.Fits b j _ u)]

end Database

namespace Filter

/-! ## Conditions on the row itself -/

/-- A linked row is asked for through the join of a foreign key in a column. -/
theorem linked_of_reading {view : TableView} {f : Field} {v : Json} {x : Sql.Operand} {j : Join}
    {entries : Object} (h : reading view f v = .linked x j entries) :
    v = .obj entries ∧ view.join? f.name = some j ∧ x = .column view.table j.field := by
  obtain ⟨hv, hj⟩ := object_of_reading h
  refine ⟨hv, hj, ?_⟩
  subst hv
  unfold reading TableView.operand? at h
  rw [join?_field hj]
  cases hstorage : f.storage with
  | virtual =>
    rw [hstorage] at h
    contradiction
  | extension column =>
    rw [hstorage] at h
    contradiction
  | column =>
    rw [hstorage] at h
    cases hkind : f.kind with
    | foreignKey table column =>
      rw [hkind] at h
      dsimp only at h
      rw [hj] at h
      exact (Reading.linked.inj h).1.symm
    | scalar | manyToMany | nestedExtension =>
      rw [hkind] at h
      contradiction

/-- An object for a foreign key in a column with a join is read through the join. -/
theorem reading_linked {view : TableView} {f : Field} {j : Join} {entries : Object}
    (hkey : f.isForeignKey = true) (hcolumn : f.isColumn = true)
    (hj : view.join? f.name = some j) :
    reading view f (.obj entries) = .linked (.column view.table f.name) j entries := by
  have hstorage : f.storage = .column := by simpa [Field.isColumn] using hcolumn
  unfold Field.isForeignKey at hkey
  unfold reading TableView.operand?
  rw [hstorage]
  cases hkind : f.kind with
  | foreignKey table column =>
    dsimp only
    rw [hj]
  | scalar | manyToMany | nestedExtension =>
    rw [hkind] at hkey
    contradiction

/-- The conditions of an entry on the row itself, with their placeholders in place. -/
def ownAt (b : Binds) (view : TableView) (f : Field) (v : Json) : List Conjunct :=
  match reading view f v with
  | .linked _ _ _ => []
  | _ => entryAt b view .select f v

/-- An entry asks for a linked row, or something of the row itself. -/
theorem entryAt_eq (b : Binds) (view : TableView) (mode : WhereMode) (f : Field) (v : Json) :
    entryAt b view mode f v = ownAt b view f v ++
      (match reading view f v with
        | .linked x j entries => linkedAt b j x mode entries
        | _ => []) := by
  unfold ownAt entryAt
  cases reading view f v <;> simp

/-- Conditions on the row itself look at no other table. -/
theorem truth_ownAt {b : Binds} {view : TableView} {f : Field} {v : Json} {c : Conjunct}
    (h : c ∈ ownAt b view f v) (db : Database V) (row : Row V) (s : Scope V) :
    db.truth row s c = db.own c.condition row := by
  unfold ownAt entryAt at h
  split at h
  · exact absurd h List.not_mem_nil
  · split at h
    · exact absurd h List.not_mem_nil
    · rw [List.mem_singleton.mp h]
      unfold documentConditionAt
      dsimp only
      split_ifs <;> rfl
    · rw [List.mem_singleton.mp h]
      rfl
    · rename_i hlinked _ _ _ _ hreading
      exact absurd hreading (hlinked _ _ _)
    · unfold flatAt at h
      split_ifs at h <;>
        · rw [List.mem_singleton.mp h]
          rfl

end Filter

namespace Database

open RowServe.Filter (ownAt entryAt_eq truth_ownAt)

variable (db : Database V)

/-- The row passes all conditions of a filter on the row itself. -/
def PassesOwn (b : Binds) (view : TableView) (filter : Object) (row : Row V) : Prop :=
  ∀ e ∈ entriesOf view filter, ∀ c ∈ ownAt b view e.1 e.2, db.own c.condition row = some true

variable {db} {b : Binds} {view : TableView} {filter : Object} {row : Row V}

/-- All conditions of a filter hold if those on the row itself do, and those on each linked
    row. -/
theorem truth_conjunctsAt {mode : WhereMode} {s : Scope V} :
    Truth.all ((conjunctsAt b view mode (entriesOf view filter)).map (db.truth row s)) =
        some true ↔
      db.PassesOwn b view filter row ∧
        ∀ e ∈ entriesOf view filter, ∀ x j entries, reading view e.1 e.2 = .linked x j entries →
          ∀ c ∈ linkedAt b j x mode entries, db.truth row s c = some true := by
  unfold conjunctsAt PassesOwn
  rw [Truth.all_eq_true, List.forall_mem_map, List.forall_mem_flatMap, ← forall₂_and]
  refine forall₂_congr fun e _ => ?_
  rw [entryAt_eq, List.forall_mem_append]
  refine and_congr (forall₂_congr fun c hc => ?_) ?_
  · rw [truth_ownAt hc]
  · cases reading view e.1 e.2 <;> simp

end Database

namespace Compile

open Database

variable {ds : Declarations} {g : Registry} {r : Resource} {filter : Object} {b : Binds}
  {db : Database V} {row : Row V}

/-! ## Linked rows of a compiled resource -/

/-- An object for the field of a join asks for the row behind the join. -/
theorem linked_entry (hg : ds.resolve = .ok g) (hr : r ∈ g.resources) {j : Join}
    (hj : j ∈ r.joins) {entries : Object}
    (hfind : filter.find? j.field = some (.obj entries)) :
    ∃ e ∈ entriesOf r.toTableView filter,
      reading r.toTableView e.1 e.2 = .linked (.column r.table j.field) j entries := by
  obtain ⟨f, hf, hkey, hcolumn⟩ := join_field hg hr hj
  have hname := TableView.field?_name hf
  have hjoin : r.join? f.name = some j := by rw [hname, join?_of_mem hg hr hj]
  refine ⟨(f, .obj entries), Filter.mem_entriesOf.mpr ⟨List.mem_of_find?_eq_some hf, ?_⟩, ?_⟩
  · rw [hname, hfind]
  · rw [Filter.reading_linked hkey hcolumn hjoin, hname]

/-- The linked rows that a filter asks for are those behind the joins of the resource whose
    fields it has an object for. -/
theorem forall_linked (hg : ds.resolve = .ok g) (hr : r ∈ g.resources)
    {P : Sql.Operand → Join → Object → Prop} :
    (∀ e ∈ entriesOf r.toTableView filter, ∀ x j entries,
        reading r.toTableView e.1 e.2 = .linked x j entries → P x j entries) ↔
      ∀ j ∈ r.joins, ∀ entries, filter.find? j.field = some (.obj entries) →
        P (.column r.table j.field) j entries := by
  constructor
  · intro h j hj entries hfind
    obtain ⟨e, he, hreading⟩ := linked_entry hg hr hj hfind
    exact h e he _ _ _ hreading
  · intro h e he x j entries hreading
    obtain ⟨hv, hjoin, rfl⟩ := Filter.linked_of_reading hreading
    obtain ⟨hj, hname⟩ := join?_some hjoin
    refine h j hj entries ?_
    rw [hname, (Filter.mem_entriesOf.mp he).2, hv]

/-- A write touches a row if the row passes, and refers to a row that fits each object. -/
theorem touches_iff (hg : ds.resolve = .ok g) (hr : r ∈ g.resources) :
    db.Touches r.toTableView ⟨conjunctsAt b r.toTableView .mutate
        (entriesOf r.toTableView filter)⟩ row ↔
      db.PassesOwn b r.toTableView filter row ∧
        ∀ j ∈ r.joins, ∀ entries, filter.find? j.field = some (.obj entries) → entries ≠ [] →
          ∃ u ∈ db.partners j row, db.Fits b j entries u := by
  unfold Touches
  rw [truth_conjunctsAt, forall_linked hg hr]
  simp only [mutate_linked]

/-- A read shows a row if the row passes, and a row that fits is beside it for each object. -/
theorem finds_iff (hg : ds.resolve = .ok g) (hr : r ∈ g.resources) {active : List String}
    (hnames : (r.table :: (r.activeJoins active).map Join.aliasName).Nodup)
    (hactive : ∀ j ∈ r.joins, ∀ entries, filter.find? j.field = some (.obj entries) →
      entries ≠ [] → j.field ∈ active) :
    db.Finds r.toTableView active ⟨conjunctsAt b r.toTableView .select
        (entriesOf r.toTableView filter)⟩ row ↔
      db.PassesOwn b r.toTableView filter row ∧
        ∀ j ∈ r.joins, ∀ entries, filter.find? j.field = some (.obj entries) →
          ∃ u ∈ db.joined j row, db.Fits b j entries u := by
  obtain ⟨hapart, hnames⟩ := List.nodup_cons.mp hnames
  have hmem : ∀ j ∈ r.activeJoins active, j ∈ r.joins := fun j hj =>
    (TableView.mem_activeJoins.mp hj).1
  have hjoined : ∀ j ∈ r.joins, ∀ entries, filter.find? j.field = some (.obj entries) →
      entries ≠ [] → j ∈ r.activeJoins active := fun j hj entries hfind hne =>
    TableView.mem_activeJoins.mpr ⟨hj, hactive j hj entries hfind hne⟩
  have halone : alone r.table row r.table = row := Function.update_self _ _ _
  obtain ⟨hbeside, hall⟩ := mem_scopes db halone
    (fun j hj => join_ownTable hg hr (hmem j hj))
    (fun j hj h => hapart (List.mem_map.mpr ⟨j, hj, h⟩)) hnames
  unfold Finds
  simp only [truth_conjunctsAt, forall_linked hg hr, select_linked]
  constructor
  · rintro ⟨s, hs, hown, hfits⟩
    refine ⟨hown, fun j hj entries hfind => ?_⟩
    cases entries with
    | nil =>
      obtain ⟨u, hu⟩ := List.exists_mem_of_ne_nil _ (joined_ne_nil db j row)
      exact ⟨u, hu, by simp [Fits]⟩
    | cons e es =>
      exact ⟨_, (hbeside s hs).1 j (hjoined j hj _ hfind (by simp)), hfits j hj _ hfind⟩
  · rintro ⟨hown, hfits⟩
    have hpick := fun j hj => exists_joined_all (hfits j hj)
    choose! pick hpick hfit using hpick
    obtain ⟨s, hs, hrows⟩ := hall pick fun j hj => hpick j (hmem j hj)
    refine ⟨s, hs, hown, fun j hj entries hfind => ?_⟩
    cases entries with
    | nil => simp [Fits]
    | cons e es =>
      rw [hrows j (hjoined j hj _ hfind (by simp))]
      exact hfit j hj _ hfind

end Compile

namespace Resource

/-! ## Both modes of a filter -/

variable (r : Resource) (db : Database V) (filter : Object) (b : Binds)

/-- The conditions of a filter. -/
def conditions (mode : WhereMode) : WhereClause :=
  (WhereClause.ofFilter r.toTableView filter mode b).1

/-- The fields whose joins a read goes through: those of what it shows, and those of its
    filter. -/
def readJoins (shown : List String) : List String := shown ++ (r.conditions filter b .select).joins

/-- A read with a filter shows the row. -/
def Shows (shown : List String) (row : Row V) : Prop :=
  db.Finds r.toTableView (r.readJoins filter b shown) (r.conditions filter b .select) row

/-- A write with a filter touches the row. -/
def Changes (row : Row V) : Prop :=
  db.Touches r.toTableView (r.conditions filter b .mutate) row

/-- The tables of a read have names of their own: its own table and one for each join. -/
def ReadsApart (shown : List String) : Prop :=
  (r.table :: (r.activeJoins (r.readJoins filter b shown)).map Join.aliasName).Nodup

/-- A filter asks for nothing but nulls in the row that a join leads to. -/
def AsksForNulls (filter : Object) (j : Join) : Prop :=
  ∃ entries, filter.find? j.field = some (.obj entries) ∧ entries ≠ [] ∧
    ∀ e ∈ entries, e.2.isNull = true

instance (shown : List String) : Decidable (r.ReadsApart filter b shown) :=
  inferInstanceAs (Decidable (List.Nodup _))

instance (shown : List String) (row : Row V) : Decidable (r.Shows db filter b shown row) :=
  inferInstanceAs (Decidable (∃ _ ∈ _, _))

instance (row : Row V) : Decidable (r.Changes db filter b row) :=
  inferInstanceAs (Decidable (_ = _))

variable {r db filter b} {ds : Declarations} {g : Registry}

theorem conditions_eq (mode : WhereMode) :
    r.conditions filter b mode =
      ⟨conjunctsAt (Filter.bindAll b (Filter.filterUses r.toTableView filter)) r.toTableView mode
        (entriesOf r.toTableView filter)⟩ := by
  unfold conditions
  rw [Filter.ofFilter_eq _ _ _ _ [], List.append_nil]

/-- A read goes through the join of each object that its filter has for a linked row. -/
theorem mem_readJoins (hg : ds.resolve = .ok g) (hr : r ∈ g.resources) (shown : List String)
    {j : Join} (hj : j ∈ r.joins) {entries : Object}
    (hfind : filter.find? j.field = some (.obj entries)) (hne : entries ≠ []) :
    j.field ∈ r.readJoins filter b shown := by
  obtain ⟨e, he, hreading⟩ := Compile.linked_entry hg hr hj hfind
  obtain ⟨k, hk⟩ := List.exists_mem_of_ne_nil _ hne
  unfold readJoins WhereClause.joins
  rw [conditions_eq]
  generalize Filter.bindAll b _ = b'
  let c : Conjunct :=
    ⟨j.field, .compare (comparisonAt b' j.aliasName j.field j.casts k.1 k.2), true⟩
  have hc : c ∈ entryAt b' r.toTableView .select e.1 e.2 := by
    rw [Filter.entryAt_eq, hreading]
    exact List.mem_append_right _ (List.mem_map.mpr ⟨k, hk, rfl⟩)
  exact List.mem_append_right _ (List.mem_map.mpr
    ⟨c, List.mem_filter.mpr ⟨List.mem_flatMap.mpr ⟨e, he, hc⟩, rfl⟩, rfl⟩)

/-- A write touches the rows that a read shows, except those that refer to nothing where
    the filter asks for nulls. -/
theorem changes_iff (hg : ds.resolve = .ok g) (hr : r ∈ g.resources) {shown : List String}
    (hapart : r.ReadsApart filter b shown) {row : Row V} :
    r.Changes db filter b row ↔
      r.Shows db filter b shown row ∧
        ∀ j ∈ r.joins, AsksForNulls filter j → db.partners j row ≠ [] := by
  unfold Changes Shows
  rw [conditions_eq, conditions_eq, Compile.touches_iff hg hr, Compile.finds_iff hg hr hapart
    fun j hj entries hfind hne => mem_readJoins hg hr shown hj hfind hne, and_assoc]
  refine and_congr_right fun _ => ?_
  simp only [Database.exists_joined_fits]
  constructor
  · intro h
    refine ⟨fun j hj entries hfind => ?_, ?_⟩
    · by_cases hne : entries = []
      · subst hne
        by_cases hpartners : db.partners j row = []
        · exact .inr ⟨hpartners, by simp⟩
        · obtain ⟨u, hu⟩ := List.exists_mem_of_ne_nil _ hpartners
          exact .inl ⟨u, hu, by simp [Database.Fits]⟩
      · exact .inl (h j hj entries hfind hne)
    · rintro j hj ⟨entries, hfind, hne, -⟩
      obtain ⟨u, hu, -⟩ := h j hj entries hfind hne
      exact List.ne_nil_of_mem hu
  · rintro ⟨hfits, hlinked⟩ j hj entries hfind hne
    rcases hfits j hj entries hfind with hfit | ⟨hnone, hnulls⟩
    · exact hfit
    · exact absurd hnone (hlinked j hj ⟨entries, hfind, hne, hnulls⟩)

/-- A write touches only rows that a read with the same filter shows. Both select the same
    rows exactly if no row that is shown refers to nothing where the filter asks for nulls. -/
theorem same_rows_iff (db : Database V) (hg : ds.resolve = .ok g) (hr : r ∈ g.resources)
    {shown : List String} (hapart : r.ReadsApart filter b shown) :
    (∀ row ∈ db.rows r.table, r.Changes db filter b row → r.Shows db filter b shown row) ∧
      ((∀ row ∈ db.rows r.table, r.Shows db filter b shown row ↔ r.Changes db filter b row) ↔
        ∀ row ∈ db.rows r.table, r.Shows db filter b shown row →
          ∀ j ∈ r.joins, AsksForNulls filter j → db.partners j row ≠ []) := by
  simp only [changes_iff hg hr hapart]
  exact ⟨fun _ _ h => h.1, forall₂_congr fun _ _ => iff_self_and⟩

/-- Products of the producer of a name. -/
def ofAnn : Object := [("producer", .obj [("name", .str "Ann")])]

theorem same_rows_shop :
    ∃ g, Declarations.shop.resolve = .ok g ∧ ∃ r ∈ g.resources,
      r.checkFilter r.contracts.get ofAnn = .ok ofAnn ∧ r.ReadsApart ofAnn [] [] ∧
      ∀ (V : Type) (db : Database V), ∀ row ∈ db.rows r.table,
        r.Shows db ofAnn [] [] row ↔ r.Changes db ofAnn [] row := by
  obtain ⟨g, hg, r, hr, hP⟩ := Compile.exists_resolved Declarations.shop
    (fun r => (r.checkFilter r.contracts.get ofAnn).toOption = some ofAnn ∧
      r.ReadsApart ofAnn [] [] ∧ ∀ j ∈ r.joins, j.field = "producer")
    (by decide +kernel) (by decide +kernel)
  obtain ⟨hfilter, hapart, hjoins⟩ := of_decide_eq_true hP
  refine ⟨g, hg, r, hr, toOption_eq_some.mp hfilter, hapart, fun V db => ?_⟩
  obtain ⟨_, hsame⟩ := same_rows_iff db hg hr hapart
  refine hsame.mpr fun row _ _ j hj ⟨entries, hfind, _, hnulls⟩ => ?_
  rw [hjoins j hj] at hfind
  rw [← Json.obj.inj (Option.some.inj hfind)] at hnulls
  exact absurd (hnulls _ List.mem_cons_self) (by decide)

/-! ## A row that refers to nothing -/

/-- Products of a producer without a name. -/
def ofNobody : Object := [("producer", .obj [("name", .null)])]

/-- A product without a producer. -/
def orphan : Row Int := Function.update Row.nulls "id" (some 1)

/-- A shop with no producers and one product. -/
def orphanage : Database Int :=
  { rows := fun table => if table = "product" then [orphan] else []
    param := fun _ => none
    same := fun a b => a == b
    same_comm := fun _ _ => Bool.beq_comm
    inside := fun _ _ => none
    own := fun _ _ => some true }

/-- The product without a producer is shown as one of a producer without a name, but an
    update or a delete with that filter leaves it alone. -/
theorem shown_not_touched :
    ∃ g, Declarations.shop.resolve = .ok g ∧ ∃ r ∈ g.resources,
      r.checkFilter r.contracts.get ofNobody = .ok ofNobody ∧ r.ReadsApart ofNobody [] [] ∧
      ∃ row ∈ orphanage.rows r.table, r.Shows orphanage ofNobody [] [] row ∧
        ¬ r.Changes orphanage ofNobody [] row := by
  obtain ⟨g, hg, r, hr, hP⟩ := Compile.exists_resolved Declarations.shop
    (fun r => (r.checkFilter r.contracts.get ofNobody).toOption = some ofNobody ∧
      r.ReadsApart ofNobody [] [] ∧ r.table = "product" ∧
      r.Shows orphanage ofNobody [] [] orphan ∧ ¬ r.Changes orphanage ofNobody [] orphan)
    (by decide +kernel) (by decide +kernel)
  obtain ⟨hfilter, hapart, htable, hshows, hchanges⟩ := of_decide_eq_true hP
  refine ⟨g, hg, r, hr, toOption_eq_some.mp hfilter, hapart, orphan, ?_, hshows, hchanges⟩
  rw [htable]
  exact List.mem_singleton_self _

end Resource

end RowServe
