import RowServe.Proofs.Resource.Compiles
import RowServe.Proofs.Resource.Removal
import RowServe.Proofs.Store.Grouping

/-!
# What a clean-up prunes

The clean-up of a resource as updates and entries of a summary, in which every part names its
columns and its flags by itself, and the text of such a clean-up. Nothing in these records keeps
two parts from naming different flags, or a table from being updated twice. That this does not
happen is said by `Cleanup.Covers`.

Results:

* `flag_inj`: different places have different flags.
* `sql_ofTables`: the statement for some dependents is the text of their clean-up.
* `covers_ofTables`: each dependent column is set once, tested once and counted once.
* `cleanup_covers`: what the clean-up of a resource updates, by its declarations.
-/

namespace RowServe

/-- The update of one table in a clean-up. -/
structure TableUpdate where
  /-- The name of the table expression. -/
  stage : String
  table : String
  key : String
  /-- The columns that are set, each with the flag that its new value depends on. -/
  sets : List (String × String)
  /-- The columns that are tested, each with the flag that says the outcome. -/
  hits : List (String × String)
  /-- The flags of which a row must have one to be updated. -/
  touched : List String
  returned : List String

/-- An entry of the summary: the rows of a table expression that have a flag. -/
structure FlagCount where
  label : String
  stage : String
  flag : String

/-- A clean-up: one statement that updates tables and counts. -/
structure Cleanup where
  updates : List TableUpdate
  counts : List FlagCount

/-! ## Texts -/

namespace TableUpdate

/-- The new value of a column, where a flag is set. -/
def setItem (table column flag : String) : String :=
  let col := Sql.qualified table column
  Sql.quoted column ++ " = CASE WHEN h." ++ flag ++
    " THEN COALESCE((SELECT jsonb_agg(e.elem) FROM jsonb_array_elements(" ++ col ++
    ") AS e(elem) WHERE (e.elem #>> '\x7b\x7d') NOT IN " ++ DependentTable.deletedKeys ++
    "), '[]'::jsonb) ELSE " ++ col ++ " END"

/-- The test of a column, under the name of a flag. -/
def hitItem (column flag : String) : String :=
  let col := "src." ++ Sql.quoted column
  "CASE WHEN jsonb_typeof(" ++ col ++ ") = 'array' THEN EXISTS (SELECT 1 FROM " ++
    "jsonb_array_elements_text(" ++ col ++ ") AS x(val) WHERE x.val IN " ++
    DependentTable.deletedKeys ++ ") ELSE false END AS " ++ flag

/-- The text of an update. -/
def sql (u : TableUpdate) : String :=
  Sql.quoted u.stage ++ " AS (UPDATE " ++ Sql.quoted u.table ++ " SET " ++
    ", ".intercalate (u.sets.map fun (c, flag) => setItem u.table c flag) ++
    " FROM (SELECT src." ++ Sql.quoted u.key ++ " AS rid, " ++
    ", ".intercalate (u.hits.map fun (c, flag) => hitItem c flag) ++
    " FROM " ++ Sql.quoted u.table ++ " AS src) AS h WHERE " ++ Sql.qualified u.table u.key ++
    " = h.rid AND (" ++ " OR ".intercalate (u.touched.map ("h." ++ ·)) ++ ") RETURNING " ++
    ", ".intercalate (u.returned.map ("h." ++ ·)) ++ ")"

/-- Each column is set once, and one flag of its own says what is done with it: the flag of its
    test decides its new value and is one of those that the row is updated and counted by. -/
structure Sound (u : TableUpdate) : Prop where
  nonempty : u.sets ≠ []
  columns : (u.sets.map (·.1)).Nodup
  flags : (u.sets.map (·.2)).Nodup
  tested : u.hits = u.sets
  touched : u.touched = u.sets.map (·.2)
  returned : u.returned = u.sets.map (·.2)
  stage : u.stage = u.table ++ "_cleanup"

end TableUpdate

/-- The text of an entry of the summary. -/
def FlagCount.sql (c : FlagCount) : String :=
  Sql.literal c.label ++ ", (SELECT count(*) FROM " ++ Sql.quoted c.stage ++ " WHERE " ++ c.flag ++
    ")"

namespace Cleanup

/-- The text of a clean-up. -/
def sql (q : Cleanup) : String :=
  "WITH " ++ ", ".intercalate (q.updates.map (·.sql)) ++ " SELECT json_build_object(" ++
    ", ".intercalate (q.counts.map (·.sql)) ++ ")"

/-- The clean-up updates some columns of tables, and nothing else. Every table is updated once,
    with its key, and every column has its entry in the summary. -/
structure Covers (q : Cleanup) (keys columns : String → String → Prop) : Prop where
  tables : (q.updates.map (·.table)).Nodup
  columns : ∀ table column, columns table column ↔
    ∃ u ∈ q.updates, u.table = table ∧ column ∈ u.sets.map (·.1)
  sound : ∀ u ∈ q.updates, u.Sound
  keys : ∀ u ∈ q.updates, keys u.table u.key
  counts : q.counts =
    q.updates.flatMap fun u => u.sets.map fun (c, flag) => ⟨u.table ++ "." ++ c, u.stage, flag⟩

end Cleanup

/-! ## The clean-up of some dependents -/

namespace DependentTable

/-- Different places have different flags. -/
theorem flag_inj {i j : Nat} (h : flag i = flag j) : i = j := by
  refine Sql.repr_inj (String.ext ?_)
  unfold flag at h
  have hchars := congrArg String.toList h
  rw [String.toList_append, String.toList_append] at hchars
  exact List.append_cancel_left hchars

/-- The columns with their flags. -/
def flagged (t : DependentTable) : List (String × String) := t.places.map fun p => (p.1, flag p.2)

theorem flagged_columns (t : DependentTable) : t.flagged.map (·.1) = t.columns := by
  unfold flagged
  rw [List.map_map]
  exact places_columns t

theorem flagged_flags (t : DependentTable) :
    t.flagged.map (·.2) = (t.places.map (·.2)).map flag := by
  unfold flagged
  rw [List.map_map, List.map_map]
  rfl

theorem flags_nodup (t : DependentTable) : (t.flagged.map (·.2)).Nodup := by
  rw [flagged_flags, places, List.zipIdx_map_snd]
  exact List.Nodup.map (fun i j h => flag_inj h) List.nodup_range'

/-- The update of a table, by its columns with their flags. -/
def tableUpdate (t : DependentTable) : TableUpdate :=
  { stage := t.table ++ "_cleanup", table := t.table, key := t.pk
    sets := t.flagged, hits := t.flagged
    touched := t.flagged.map (·.2), returned := t.flagged.map (·.2) }

/-- The entries of the summary for a table. -/
def flagCounts (t : DependentTable) : List FlagCount :=
  t.flagged.map fun (c, flag) => ⟨t.table ++ "." ++ c, t.table ++ "_cleanup", flag⟩

theorem tableUpdate_sql (t : DependentTable) : t.tableUpdate.sql = t.update := by
  have hflags : (t.flagged.map (·.2)).map ("h." ++ ·) = t.places.map fun p => "h." ++ flag p.2 := by
    rw [flagged_flags, List.map_map, List.map_map]
    rfl
  unfold TableUpdate.sql update tableUpdate
  dsimp only
  rw [hflags]
  unfold flagged
  rw [List.map_map, List.map_map]
  rfl

theorem flagCounts_sql (t : DependentTable) : t.flagCounts.map (·.sql) = t.counts := by
  unfold flagCounts flagged counts
  rw [List.map_map, List.map_map]
  rfl

theorem sound_tableUpdate {t : DependentTable} (hsome : t.columns ≠ []) (honce : t.columns.Nodup) :
    t.tableUpdate.Sound where
  nonempty := fun hnil => hsome (by
    rw [← flagged_columns, show t.flagged = [] from hnil]
    rfl)
  columns := by
    rw [show t.tableUpdate.sets = t.flagged from rfl, flagged_columns]
    exact honce
  flags := flags_nodup t
  tested := rfl
  touched := rfl
  returned := rfl
  stage := rfl

/-- A table is listed with at least one column. -/
theorem columns_nonempty {ds : List Dependent} {t : DependentTable} (ht : t ∈ ofList ds) :
    t.columns ≠ [] := by
  obtain ⟨d, hd, htable⟩ := table_listed ht
  obtain ⟨u, hu, hutable, hcolumn⟩ := mem_ofList hd
  have htables := (grouped_ofList ds).tables
  obtain rfl : t = u := List.inj_on_of_nodup_map htables ht hu (htable.trans hutable.symm)
  exact List.ne_nil_of_mem hcolumn

end DependentTable

namespace Cleanup

open DependentTable (ofList)

/-- The clean-up of some tables. -/
def ofTables (ts : List DependentTable) : Cleanup :=
  ⟨ts.map (·.tableUpdate), ts.flatMap (·.flagCounts)⟩

/-- The statement for some dependents is the text of the clean-up of their tables. -/
theorem sql_ofTables {ds : List Dependent} {text : String} (h : cleanupStatement ds = some text) :
    text = (ofTables (ofList ds)).sql := by
  unfold cleanupStatement at h
  split_ifs at h
  rw [← Option.some.inj h]
  have hupdates : (ofTables (ofList ds)).updates.map (·.sql) =
      (ofList ds).map DependentTable.update := by
    unfold ofTables
    rw [List.map_map]
    exact List.map_congr_left fun t _ => t.tableUpdate_sql
  have hcounts : (ofTables (ofList ds)).counts.map (·.sql) =
      (ofList ds).flatMap DependentTable.counts := by
    unfold ofTables
    rw [List.map_flatMap]
    exact congrArg (List.flatMap · (ofList ds)) (funext fun t => t.flagCounts_sql)
  rw [Cleanup.sql, hupdates, hcounts]

/-- The clean-up of some dependents covers exactly their columns. -/
theorem covers_ofTables (ds : List Dependent) :
    (ofTables (ofList ds)).Covers (fun table key => ∃ d ∈ ds, d.table = table ∧ d.pk = key)
      (fun table column => ∃ d ∈ ds, d.table = table ∧ d.column = column) := by
  have hgrouped := DependentTable.grouped_ofList ds
  refine ⟨?_, fun table column => ?_, ?_, ?_, ?_⟩
  · rw [ofTables, List.map_map]
    exact hgrouped.tables
  · have hpair : (∃ d ∈ ds, d.table = table ∧ d.column = column) ↔
        (table, column) ∈ DependentTable.pairs (ofList ds) := by
      rw [DependentTable.mem_pairs]
      simp only [Prod.mk.injEq, eq_comm]
    rw [hpair]
    unfold DependentTable.pairs ofTables
    rw [List.mem_flatMap]
    constructor
    · rintro ⟨t, ht, hcolumn⟩
      obtain ⟨c, hc, he⟩ := List.mem_map.mp hcolumn
      obtain ⟨rfl, rfl⟩ := Prod.mk.inj he
      refine ⟨t.tableUpdate, List.mem_map_of_mem ht, rfl, ?_⟩
      exact (DependentTable.flagged_columns t).symm ▸ hc
    · rintro ⟨u, hu, rfl, hcolumn⟩
      obtain ⟨t, ht, rfl⟩ := List.mem_map.mp hu
      have hc : column ∈ t.columns := DependentTable.flagged_columns t ▸ hcolumn
      exact ⟨t, ht, List.mem_map.mpr ⟨column, hc, rfl⟩⟩
  · intro u hu
    obtain ⟨t, ht, rfl⟩ := List.mem_map.mp hu
    exact DependentTable.sound_tableUpdate (DependentTable.columns_nonempty ht)
      (hgrouped.columns t ht)
  · intro u hu
    obtain ⟨t, ht, rfl⟩ := List.mem_map.mp hu
    obtain ⟨⟨d, hd, htable, hkey⟩, _⟩ := DependentTable.from_ofList ds t ht
    exact ⟨d, hd, htable.symm, hkey.symm⟩
  · unfold ofTables
    rw [List.flatMap_map]
    rfl

theorem Covers.congr {q : Cleanup} {keys keys' columns columns' : String → String → Prop}
    (h : q.Covers keys columns) (hkeys : ∀ table key, keys table key → keys' table key)
    (hcolumns : ∀ table column, columns' table column ↔ columns table column) :
    q.Covers keys' columns' where
  tables := h.tables
  columns := fun table column => (hcolumns table column).trans (h.columns table column)
  sound := h.sound
  keys := fun u hu => hkeys _ _ (h.keys u hu)
  counts := h.counts

end Cleanup

/-! ## The clean-up of a resource -/

namespace Declarations

/-- The key of a table, as a resource with this table declares it. -/
def KeyOf (ds : Declarations) (table key : String) : Prop :=
  ∃ d ∈ ds, d.isKid = false ∧ d.tableName = table ∧ d.primaryKey?.map (·.name) = some key

/-- A column that lists the keys of a table: a many-to-many field of a resource with a table of its
    own refers to them. -/
def Lists (ds : Declarations) (target : String × String) (table column : String) : Prop :=
  ∃ d ∈ ds, d.isKid = false ∧ d.tableName = table ∧
    ∃ f ∈ d.fields, f.isManyToMany = true ∧ f.target? = some target ∧ f.name = column

end Declarations

namespace Compile

variable {ds : Declarations}

theorem mem_dependentsOf {table pk : String} {e : Dependent} :
    e ∈ dependentsOf ds table pk ↔ ∃ d ∈ ds, d.isKid = false ∧ ∃ key, d.primaryKey? = some key ∧
      ∃ f ∈ d.fields, f.isManyToMany = true ∧ f.target? = some (table, pk) ∧
        e = ⟨d.tableName, f.name, key.name⟩ := by
  unfold dependentsOf
  rw [List.mem_flatMap]
  refine exists_congr fun d => ?_
  rw [List.mem_filter, Bool.not_eq_true', and_assoc]
  refine and_congr_right fun _ => and_congr_right fun _ => ?_
  cases d.primaryKey? with
  | none => simp
  | some key =>
    simp only [Option.some.injEq, exists_eq_left', List.mem_map, List.mem_filter, Bool.and_eq_true,
      decide_eq_true_eq, and_assoc]
    exact exists_congr fun f => and_congr_right fun _ => and_congr_right fun _ =>
      and_congr_right fun _ => eq_comm

/-- The columns that are looked after are all that list the keys. -/
theorem dependentsOf_columns {ts : List TableDef} (htables : TableDef.ofDecls ds = .ok ts)
    (table pk t c : String) :
    (∃ e ∈ dependentsOf ds table pk, e.table = t ∧ e.column = c) ↔ ds.Lists (table, pk) t c := by
  simp only [mem_dependentsOf]
  constructor
  · rintro ⟨e, ⟨d, hd, hplain, key, -, f, hf, hmany, htarget, rfl⟩, htable, hcolumn⟩
    exact ⟨d, hd, hplain, htable, f, hf, hmany, htarget, hcolumn⟩
  · rintro ⟨d, hd, hplain, htable, f, hf, hmany, htarget, hcolumn⟩
    -- a resource with a table of its own is only accepted with a key
    obtain ⟨hkey, _⟩ := TableDef.mem_ofDecls htables hd hplain
    obtain ⟨key, hkeys, _⟩ := TableDef.checkKey_one hkey
    exact ⟨_, ⟨d, hd, hplain, key, TableDef.primaryKey?_of_one hkeys, f, hf, hmany, htarget, rfl⟩,
      htable, hcolumn⟩

theorem dependentsOf_key {table pk : String} {t k : String}
    (h : ∃ e ∈ dependentsOf ds table pk, e.table = t ∧ e.pk = k) : ds.KeyOf t k := by
  obtain ⟨e, he, htable, hkey⟩ := h
  obtain ⟨d, hd, hplain, key, hpk, f, _, _, _, rfl⟩ := mem_dependentsOf.mp he
  refine ⟨d, hd, hplain, htable, ?_⟩
  rw [hpk]
  exact congrArg some hkey

end Compile

namespace Resource

variable {ds : Declarations} {g : Registry} {r : Resource}

/-- The clean-up of a resource updates exactly the columns that list keys of its table. Each of
    their tables is updated once, and each column is set once, by the flag of its own test, and
    counted once, by the same flag. Without such columns there is no clean-up. -/
theorem cleanup_covers (hg : ds.resolve = .ok g) (hr : r ∈ g.resources) :
    (r.templates.cleanup = none ↔ ∀ table column, ¬ ds.Lists (r.table, r.pk) table column) ∧
      ∀ text, r.templates.cleanup = some text →
        ∃ q : Cleanup, text = q.sql ∧ q.Covers ds.KeyOf (ds.Lists (r.table, r.pk)) := by
  obtain ⟨_, htables, _⟩ := Compile.resolve_ok_iff.mp hg
  obtain ⟨d, _, hd⟩ := Compile.mem_resolved hg hr
  obtain ⟨p, templates, _, htemplates, rfl⟩ := Compile.resource_ok_iff.mp hd
  have hcleanup := (Statement.templates_ok_iff.mp htemplates).cleanup
  have hcolumns := Compile.dependentsOf_columns htables (p.owner d).tableName p.pk.name
  refine ⟨?_, fun text htext => ?_⟩
  · rw [show (p.resource ds d templates).templates.cleanup = _ from hcleanup,
      cleanupStatement_eq_none]
    constructor
    · intro hnone table column hlists
      obtain ⟨e, he, _⟩ := (hcolumns table column).mpr hlists
      rw [show Compile.dependentsOf ds _ _ = [] from hnone] at he
      exact List.not_mem_nil he
    · intro hnone
      refine List.eq_nil_iff_forall_not_mem.mpr fun e he => ?_
      exact hnone e.table e.column ((hcolumns _ _).mp ⟨e, he, rfl, rfl⟩)
  · have hstatement : cleanupStatement (p.dependents ds d) = some text := hcleanup.symm.trans htext
    refine ⟨_, Cleanup.sql_ofTables hstatement, (Cleanup.covers_ofTables _).congr ?_ ?_⟩
    · exact fun table key h => Compile.dependentsOf_key h
    · exact fun table column => (hcolumns table column).symm

/-- The tags of posts are removed from their one column. -/
theorem cleanup_covers_tags :
    ∃ g, tagged.resolve = .ok g ∧ ∃ r ∈ g.resources, tagged.Lists (r.table, r.pk) "post" "tags" ∧
      ∃ text, r.templates.cleanup = some text ∧
        ∃ q : Cleanup, text = q.sql ∧ q.Covers tagged.KeyOf (tagged.Lists (r.table, r.pk)) := by
  obtain ⟨g, hg, r, hr, hP⟩ := Compile.exists_resolved tagged
    (fun r => r.table = "tag" ∧ r.pk = "id" ∧ r.templates.cleanup.isSome = true)
    (by decide +kernel) (by decide +kernel)
  obtain ⟨htable, hpk, hcleanup⟩ := of_decide_eq_true hP
  obtain ⟨text, htext⟩ := Option.isSome_iff_exists.mp hcleanup
  refine ⟨g, hg, r, hr, ?_, text, htext, (cleanup_covers hg hr).2 text htext⟩
  rw [htable, hpk]
  exact ⟨_, List.mem_cons_of_mem _ List.mem_cons_self, rfl, rfl, _,
    List.mem_cons_of_mem _ List.mem_cons_self, by decide +kernel, by decide +kernel, rfl⟩

end Resource

end RowServe
