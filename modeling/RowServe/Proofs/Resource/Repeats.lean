import RowServe.Proofs.Resource.Numbered
import RowServe.Proofs.Resource.Reads
import RowServe.Proofs.Store.Grouping

/-!
# Names that statements repeat

An insert lists columns, an update sets columns, a read builds an object with keys and joins
tables under aliases, and a clean-up does some of each. None of them looks for repeats. A
statement repeats a name exactly if the declarations do: a stored field that is declared twice,
or a foreign key that stands twice among the fields that a row is read by. What is repeated
among the fields that rows are listed by does not count, because the union of both lists drops
it.

Results:

* `count_union_le`: the repeats that a union keeps.
* `inserted_nodup`, `assigned_nodup`, `keys_nodup`, `joined_nodup`: the lists of one statement.
* `names_once`: when the statements of a resource are free of repeats.
* `joined_twice`: a resource that is joined twice under one alias.
-/

namespace RowServe

open Sql (Command)
open Sql.Template (filledText)

/-- Members that pass are all different if each of them is listed once. -/
theorem nodup_filter_iff {α : Type} [DecidableEq α] {p : α → Bool} {as : List α} :
    (as.filter p).Nodup ↔ ∀ a, p a = true → as.count a ≤ 1 := by
  rw [List.nodup_iff_count_le_one]
  refine forall_congr' fun a => ?_
  by_cases ha : p a = true
  · rw [List.count_filter ha]
    exact ⟨fun h _ => h, fun h => h ha⟩
  · have hmem : a ∉ as.filter p := fun h => ha (List.mem_filter.mp h).2
    rw [List.count_eq_zero_of_not_mem hmem]
    simp [ha]

namespace Compile

/-- A union drops what is repeated in its second list, and keeps what is repeated in its
    first. -/
theorem count_union_le (as bs : List String) (n : String) :
    (union as bs).count n ≤ 1 ↔ as.count n ≤ 1 := by
  unfold union
  induction bs generalizing as with
  | nil => rfl
  | cons b bs ih =>
    rw [List.foldl_cons, ih]
    split_ifs with hb
    · rfl
    · by_cases hn : b = n
      · have hfresh : n ∉ as := by simpa [hn] using hb
        rw [List.count_append, List.count_eq_zero_of_not_mem hfresh]
        simp [hn]
      · rw [List.count_append, List.count_singleton, if_neg (by simpa using hn), Nat.add_zero]

theorem isForeignKey_iff (f : Field) :
    f.isForeignKey = true ↔ ∃ table column, f.kind = .foreignKey table column := by
  unfold Field.isForeignKey
  cases f.kind <;> simp

/-- The name is that of a foreign key. -/
def isKeyName (fields : List Field) (name : String) : Bool :=
  (fields.find? (·.name = name)).any Field.isForeignKey

theorem isKeyName_iff (fields : List Field) (name : String) :
    isKeyName fields name = true ↔
      ∃ table column, (fields.find? (·.name = name)).map Field.kind =
        some (.foreignKey table column) := by
  unfold isKeyName
  cases fields.find? (·.name = name) with
  | none => simp
  | some f => simp [isForeignKey_iff]

/-- There is a join for each of the names that is the name of a foreign key. -/
theorem linkedAll_names {ds : Declarations} {table : String} {fields : List Field}
    {names : List String} {linked : List Linked}
    (h : linkedAll ds table fields names = .ok linked) :
    linked.map (·.join.field) = names.filter (isKeyName fields) := by
  induction names generalizing linked with
  | nil =>
    rw [← Except.ok.inj h]
    rfl
  | cons name names ih =>
    unfold linkedAll at h
    split at h
    · rename_i target column hkind
      obtain ⟨first, hfirst, h⟩ := bind_eq_ok.mp h
      obtain ⟨others, hothers, h⟩ := bind_eq_ok.mp h
      obtain ⟨_, _, hname, _⟩ := linkedOf_ok hfirst
      have hkey := (isKeyName_iff fields name).mpr ⟨target, column, hkind⟩
      rw [← Except.ok.inj h, List.map_cons, hname, ih hothers, List.filter_cons_of_pos hkey]
    · rename_i hkind
      have hkey : ¬ isKeyName fields name = true := by
        intro hkey
        obtain ⟨target, column, hkey⟩ := (isKeyName_iff fields name).mp hkey
        exact hkind target column hkey
      rw [ih h, List.filter_cons_of_neg hkey]

variable {ds : Declarations} {g : Registry} {r : Resource}

/-- A join is repeated if its field is repeated among those that a row is read by. -/
theorem count_joins_le (hg : ds.resolve = .ok g) (hr : r ∈ g.resources) {j : Join}
    (hj : j ∈ r.joins) :
    (r.joins.map (·.field)).count j.field ≤ 1 ↔ r.getBy.count j.field ≤ 1 := by
  obtain ⟨d, _, hd⟩ := mem_resolved hg hr
  obtain ⟨p, templates, hp, _, rfl⟩ := resource_ok_iff.mp hd
  have hjoins : (p.resource ds d templates).joins.map (·.field) =
      (union (p.lists d).getBy (p.lists d).listBy).filter (isKeyName (p.fields ds d)) := by
    rw [← linkedAll_names hp.linked]
    exact List.map_map
  have hmem := List.mem_map_of_mem (f := (·.field)) hj
  rw [hjoins] at hmem ⊢
  rw [List.count_filter (List.mem_filter.mp hmem).2]
  exact count_union_le _ _ _

end Compile

namespace Change

/-- What is changed are the fields that the payload has a value for, in their own order. -/
theorem changed_names (payload : Object) (skip : Option String) (fields : List Field) :
    (changed payload skip fields).map (·.1.name) =
      (fields.map Field.name).filter fun n =>
        decide (skip ≠ some n) && payload.has n := by
  induction fields with
  | nil => rfl
  | cons f fields ih =>
    rw [changed_cons, List.map_append, ih, List.map_cons, List.filter_cons]
    by_cases hskip : skip = some f.name
    · simp [hskip]
    · unfold Keyed.has
      cases payload.find? f.name with
      | none => simp
      | some v => simp [hskip]

end Change

namespace Resource

variable (r : Resource)

/-- The names of the columns of a resource, one for each stored field. -/
def columnNames : List String := (r.fields.filter Field.isColumn).map Field.name

/-- The key of a new row, if a sequence gives it. -/
def generatedKey : Option String := r.autoincrement.map fun _ => r.pk

/-- The columns of an insert: those of the payload, behind the key that a sequence gives. -/
theorem inserted_columns (payload : Object) :
    (r.insertedValues payload).map (·.column) =
      r.generatedKey.toList ++
        r.columnNames.filter fun n => decide (r.generatedKey ≠ some n) && payload.has n := by
  unfold insertedValues Change.insertionsAt columnNames generatedKey
  rw [List.map_append, List.map_map, ← Change.changed_names]
  congr 1
  cases r.autoincrement with
  | none => rfl
  | some sequence => rfl

/-- A name in front of others that leave it out does not repeat any of them. -/
theorem nodup_behind (key : Option String) (p : String → Bool) (names : List String) :
    (key.toList ++ names.filter fun n => decide (key ≠ some n) && p n).Nodup ↔
      (names.filter fun n => decide (key ≠ some n) && p n).Nodup := by
  cases key with
  | none => rfl
  | some key =>
    refine List.nodup_cons.trans (and_iff_right fun hmem => ?_)
    simpa using (List.mem_filter.mp hmem).2

/-- An insert lists no column twice if no field is declared twice that it has a value for. The
    key that a sequence gives is listed once, whatever the payload has for it. -/
theorem inserted_nodup (payload : Object) :
    ((r.insertedValues payload).map (·.column)).Nodup ↔
      ∀ n, payload.has n = true → (r.autoincrement = none ∨ n ≠ r.pk) →
        r.columnNames.count n ≤ 1 := by
  have hskip (n : String) :
      r.generatedKey ≠ some n ↔ (r.autoincrement = none ∨ n ≠ r.pk) := by
    unfold generatedKey
    cases r.autoincrement with
    | none => simp
    | some sequence => simp [eq_comm]
  rw [inserted_columns, nodup_behind, nodup_filter_iff]
  refine forall_congr' fun n => ?_
  rw [Bool.and_eq_true, decide_eq_true_eq, hskip, and_comm, and_imp]

/-- The columns of an update: those of the payload, without the key. -/
theorem assigned_columns (op : Operation) (filter payload : Object) :
    (r.assignmentsBehind op filter payload).map (·.column) =
      r.columnNames.filter fun n => decide (some r.pk ≠ some n) && payload.has n := by
  unfold assignmentsBehind
  rw [Change.assignments_eq]
  unfold Change.assignmentsAt columnNames
  rw [List.map_map, ← Change.changed_names]
  rfl

/-- An update sets no column twice if no field is declared twice that it has a value for. -/
theorem assigned_nodup (op : Operation) (filter payload : Object) :
    ((r.assignmentsBehind op filter payload).map (·.column)).Nodup ↔
      ∀ n, payload.has n = true → n ≠ r.pk → r.columnNames.count n ≤ 1 := by
  rw [assigned_columns, nodup_filter_iff]
  refine forall_congr' fun n => ?_
  rw [Bool.and_eq_true, decide_eq_true_eq, ne_eq, Option.some.injEq, and_comm, and_imp, ne_comm]

variable {r} {ds : Declarations} {g : Registry} {names : Option (List String)}
  {selection : Option (List Selected)} {list : Bool}

/-- The first field of the name is stored. -/
def showsName (r : Resource) (name : String) : Bool := ((r.field? name).bind r.operand?).isSome

theorem shown?_name (hg : ds.resolve = .ok g) (hr : r ∈ g.resources) (s : Selected) :
    (Selection.shown? r.toTableView list s).map (·.1) =
      if r.showsName s.name then some s.name else none := by
  unfold showsName
  cases hjoin : r.join? s.name with
  | none =>
    rw [Selection.shown?_own list hg hr hjoin]
    cases (r.field? s.name).bind r.operand? with
    | none => rfl
    | some x => rfl
  | some j =>
    obtain ⟨hj, hfield⟩ := Compile.join?_some hjoin
    obtain ⟨f, hf, _, hcolumn⟩ := Compile.join_field hg hr hj
    have hoperand : r.operand? f = some (.column r.table f.name) := by
      have hstorage : f.storage = .column := by simpa [Field.isColumn] using hcolumn
      unfold TableView.operand?
      rw [hstorage]
    rw [hfield] at hf
    rw [Selection.shown?_linked list hg hr hj hfield, hf, Option.bind_some, hoperand]
    rfl

/-- The keys of what is shown are the names of the entries, as far as they are stored. -/
theorem shown_keys (hg : ds.resolve = .ok g) (hr : r ∈ g.resources) :
    (Selection.shownTo r selection list).map (·.1) =
      ((Selection.entries r selection).map (·.name)).filter r.showsName := by
  unfold Selection.shownTo Selection.shown
  rw [List.map_filterMap, List.filter_map, ← List.filterMap_eq_map, ← List.filterMap_eq_filter,
    List.filterMap_filterMap]
  refine List.filterMap_congr fun s _ => ?_
  rw [shown?_name hg hr]
  cases hs : r.showsName s.name with
  | false => simp [Option.guard, hs]
  | true => simp [Option.guard, hs]

/-- A projection has no key twice if the request names what is shown, since a name that is
    given twice is one entry. By default it has one key for each readable field. -/
theorem keys_nodup (hg : ds.resolve = .ok g) (hr : r ∈ g.resources)
    (hs : Selection.Chosen r names selection) :
    ((Selection.shownTo r selection list).map (·.1)).Nodup ↔
      (names = none → ∀ n, r.showsName n = true → (r.defaults.map (·.name)).count n ≤ 1) := by
  rw [shown_keys hg hr]
  cases hs with
  | default =>
    rw [nodup_filter_iff]
    exact ⟨fun h _ => h, fun h => h rfl⟩
  | @parsed names selection hparse =>
    have hcollected := Selection.collect_collected (names.filterMap (Selection.requested? r))
    rw [← Selection.parse_ok hparse] at hcollected
    exact ⟨fun _ h => by contradiction, fun _ => hcollected.nodup.filter _⟩

/-- A read joins no table twice under one alias, and none under the name of its own table,
    exactly if no field of its joins is listed twice and no alias is the name of the table. -/
theorem joined_nodup (hg : ds.resolve = .ok g) (hr : r ∈ g.resources) (filter : Object) :
    (r.table :: (r.joinsOf filter selection list).map Join.aliasName).Nodup ↔
      ∀ j ∈ r.joinsOf filter selection list,
        j.aliasName ≠ r.table ∧ r.getBy.count j.field ≤ 1 := by
  let active := r.readJoins filter [] (r.projected list selection).2
  have hfields : (r.joinsOf filter selection list).map (·.field) =
      (r.joins.map (·.field)).filter active.contains := by
    rw [List.filter_map]
    rfl
  have haliases : (r.joinsOf filter selection list).map Join.aliasName =
      ((r.joinsOf filter selection list).map (·.field)).map ("j_" ++ ·) := List.map_map.symm
  have hprefix : Function.Injective ("j_" ++ · : String → String) := fun a b h => by
    simpa using h
  have hown : r.table ∉ (r.joinsOf filter selection list).map Join.aliasName ↔
      ∀ j ∈ r.joinsOf filter selection list, j.aliasName ≠ r.table := by
    simp
  have honce : ((r.joinsOf filter selection list).map Join.aliasName).Nodup ↔
      ∀ j ∈ r.joinsOf filter selection list, r.getBy.count j.field ≤ 1 := by
    rw [haliases, List.nodup_map_iff hprefix, hfields, nodup_filter_iff]
    constructor
    · intro h j hj
      obtain ⟨hj, hactive⟩ := TableView.mem_activeJoins.mp hj
      rw [← Compile.count_joins_le hg hr hj]
      exact h _ (List.contains_iff_mem.mpr hactive)
    · intro h n hn
      by_cases hmem : n ∈ r.joins.map (·.field)
      · obtain ⟨j, hj, rfl⟩ := List.mem_map.mp hmem
        rw [Compile.count_joins_le hg hr hj]
        exact h j (TableView.mem_activeJoins.mpr ⟨hj, List.contains_iff_mem.mp hn⟩)
      · rw [List.count_eq_zero_of_not_mem hmem]
        exact Nat.zero_le 1
  rw [List.nodup_cons, hown, honce, ← forall₂_and]

/-! ## Statements without repeats -/

/-- When the lists of names in the statements of a resource are free of repeats: the columns
    that an insert lists, the columns that an update or a clean-up sets, the keys of what a read
    shows and of the summary of a clean-up, and the names that a read gives to tables. -/
structure NamesOnce (r : Resource) : Prop where
  insert {payload : Object} {cmd : Command}
    (h : (r.create payload).Performs (StoreAction.run cmd)) :
    (∃ values, cmd.text = filledText r.templates.insert.segments values ∧
        r.templates.insert.Puts values .cols (Sql.columnList (r.insertedValues payload))) ∧
      (((r.insertedValues payload).map (·.column)).Nodup ↔
        ∀ n, payload.has n = true → (r.autoincrement = none ∨ n ≠ r.pk) →
          r.columnNames.count n ≤ 1)
  update {op : Operation} {filter payload : Object} {cmd : Command}
    (h : (r.update op filter payload).Performs (StoreAction.run cmd)) :
    (∃ values, cmd.text = filledText r.templates.update.segments values ∧
        r.templates.update.Puts values .updates
          (Sql.setList (r.assignmentsBehind op filter payload))) ∧
      (((r.assignmentsBehind op filter payload).map (·.column)).Nodup ↔
        ∀ n, payload.has n = true → n ≠ r.pk → r.columnNames.count n ≤ 1)
  read {names : Option (List String)} {selection : Option (List Selected)} {filter : Object}
    {list : Bool} {cmd : Command} (hs : Selection.Chosen r names selection)
    (h : r.Reads filter selection list cmd) :
    (∃ values, cmd.text = filledText (r.base list).segments values ∧
        (r.base list).Puts values .select
          (Sql.projection (Selection.shownTo r selection list)) ∧
        (r.base list).Puts values .joins
          (" ".intercalate ((r.joinsOf filter selection list).map Join.sql))) ∧
      (((Selection.shownTo r selection list).map (·.1)).Nodup ↔
        (names = none → ∀ n, r.showsName n = true → (r.defaults.map (·.name)).count n ≤ 1)) ∧
      ((r.table :: (r.joinsOf filter selection list).map Join.aliasName).Nodup ↔
        ∀ j ∈ r.joinsOf filter selection list,
          j.aliasName ≠ r.table ∧ r.getBy.count j.field ≤ 1)
  cleanup {keys : List Json} {cmd : Command}
    (h : (r.prune keys).Performs (StoreAction.run cmd)) :
    cleanupStatement r.dependents = some cmd.text ∧
      DependentTable.Grouped (DependentTable.ofList r.dependents) ∧
      ((DependentTable.labels (DependentTable.ofList r.dependents)).Nodup ↔
        ∀ d ∈ r.dependents, ∀ e ∈ r.dependents,
          d.table ++ "." ++ d.column = e.table ++ "." ++ e.column →
            d.table = e.table ∧ d.column = e.column)

/-- Statements repeat a name only if the declarations do. -/
theorem names_once (hg : ds.resolve = .ok g) (hr : r ∈ g.resources) : r.NamesOnce where
  insert h := ⟨insert_filled hg hr (create_performs.mp h), r.inserted_nodup _⟩
  update h := ⟨update_filled hg hr (update_performs.mp h), r.assigned_nodup _ _ _⟩
  read hs h := by
    obtain ⟨values, htext, hselect, hjoins, _⟩ := h.filled hg hr
    exact ⟨⟨values, htext, hselect, hjoins⟩, keys_nodup hg hr hs, joined_nodup hg hr _⟩
  cleanup h := ⟨(cleanup_some hg hr (prune_performs h)).1,
    DependentTable.grouped_ofList _, DependentTable.labels_nodup_iff _⟩

/-- A product is read without repeats. -/
theorem names_once_shop :
    ∃ g, Declarations.shop.resolve = .ok g ∧ ∃ r ∈ g.resources, ∃ cmd,
      r.Reads [("id", .ofInt 1)] none false cmd ∧
        (r.joinsOf [("id", .ofInt 1)] none false).map Join.aliasName = ["j_producer"] ∧
        ((Selection.shownTo r none false).map (·.1)).Nodup ∧
        (r.table :: (r.joinsOf [("id", .ofInt 1)] none false).map Join.aliasName).Nodup := by
  obtain ⟨g, hg, r, hr, hP⟩ := Compile.exists_resolved Declarations.shop
    (fun r => (r.getCommand [("id", .ofInt 1)] none).toOption.isSome ∧ r.table = "product" ∧
      r.getBy = ["id", "producer"] ∧ r.defaults.map (·.name) = ["id", "producer"] ∧
      (r.joinsOf [("id", .ofInt 1)] none false).map Join.aliasName = ["j_producer"])
    (by decide +kernel) (by decide +kernel)
  obtain ⟨hsome, htable, hgetBy, hnames, haliases⟩ := of_decide_eq_true hP
  obtain ⟨cmd, hcmd⟩ := Option.isSome_iff_exists.mp hsome
  have hread : r.Reads [("id", .ofInt 1)] none false cmd :=
    .row (read_performs.mpr (toOption_eq_some.mp hcmd))
  obtain ⟨_, hkeys, hjoined⟩ := (names_once hg hr).read .default hread
  refine ⟨g, hg, r, hr, cmd, hread, haliases, hkeys.mpr fun _ n _ => ?_,
    hjoined.mpr fun j hj => ⟨?_, ?_⟩⟩
  · rw [hnames]
    exact List.nodup_iff_count_le_one.mp (by decide) n
  · have halias := List.mem_map_of_mem (f := Join.aliasName) hj
    rw [haliases, List.mem_singleton] at halias
    rw [halias, htable]
    decide
  · rw [hgetBy]
    exact List.nodup_iff_count_le_one.mp (by decide) _

/-- Products that are read by their producer, which is listed twice. -/
def doubled : Declarations :=
  [.plain "Producer" "producer"
    [.key "id", { FieldDecl.plain "name" .string (some (.simple "text")) with unique := true }],
    { ResourceDecl.plain "Product" "product" [.key "id", .link "producer" "producer.id"] with
      info := { ResourceMeta.plain with
        route := some "product"
        getBy := some ["id", "producer", "producer"] } }]

/-- The statement that joins the producer of a product twice, under one alias. -/
def doubledText : String :=
  "SELECT json_build_object('id', \"product\".\"id\", 'producer', " ++
    "CASE WHEN \"j_producer\".\"id\" IS NULL THEN NULL ELSE " ++
    "json_build_object('id', \"j_producer\".\"id\", 'name', \"j_producer\".\"name\") END) " ++
    "AS \"inner\" FROM \"product\" LEFT JOIN \"producer\" AS \"j_producer\" " ++
    "ON \"j_producer\".\"id\" = \"product\".\"producer\" LEFT JOIN \"producer\" AS " ++
    "\"j_producer\" ON \"j_producer\".\"id\" = \"product\".\"producer\" " ++
    "WHERE \"product\".\"id\" = $1::int LIMIT 1"

/-- A field that is listed twice among those that a row is read by is joined twice. -/
theorem joined_twice :
    ∃ g, doubled.resolve = .ok g ∧ ∃ r ∈ g.resources, ∃ cmd,
      r.Reads [("id", .ofInt 1)] none false cmd ∧ cmd.text = doubledText ∧
        ¬ ((r.joinsOf [("id", .ofInt 1)] none false).map Join.aliasName).Nodup := by
  obtain ⟨g, hg, r, hr, hP⟩ := Compile.exists_resolved doubled
    (fun r => (r.getCommand [("id", .ofInt 1)] none).toOption.map (·.text) = some doubledText ∧
      (r.joinsOf [("id", .ofInt 1)] none false).map Join.aliasName = ["j_producer", "j_producer"])
    (by decide +kernel) (by decide +kernel)
  obtain ⟨htext, haliases⟩ := of_decide_eq_true hP
  obtain ⟨cmd, hcmd, htext⟩ := Option.map_eq_some_iff.mp htext
  refine ⟨g, hg, r, hr, cmd, .row (read_performs.mpr (toOption_eq_some.mp hcmd)), htext, ?_⟩
  rw [haliases]
  decide

end Resource

end RowServe
