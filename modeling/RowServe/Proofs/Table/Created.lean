import Mathlib.Data.List.Nodup
import RowServe.Proofs.Table.Provision

/-!
# What provisioning creates

Sequences, tables and indexes are created if there is nothing of their name. They share one space of
names, in which the server also names the indexes of keys and unique columns, so a declared table or
index is there in the end only if no other relation has taken its name first. The checks of
declarations do not look at these names. Only names count here: that a statement can fail for some
other reason is left out.

Results:

* `all_created_iff`: when a run of the statements on an empty database creates everything.
* `placeName_eq_iff`: when two columns have one name for their indexes.
* `declared_created_iff`: what the statements of checked declarations create, and when they do.
* `second_index_skipped`: two tables of which the second one gets no index.
-/

namespace RowServe.Provision

open Sql (quoted)

/-! ## Creations -/

/-- A relation that a statement creates. -/
inductive Creation where
  | sequence (name : String)
  | table (t : TableDef)
  | index (t : TableDef) (c : ColumnDef)
  deriving DecidableEq

namespace Creation

def name : Creation → String
  | sequence name => name
  | table t => t.name
  | index t c => t.indexName c

/-- The statement. -/
def sql : Creation → String
  | sequence name => sequenceSql name
  | table t => t.createSql
  | index t c => "CREATE INDEX IF NOT EXISTS " ++ quoted (t.indexName c) ++ " ON " ++
      quoted t.name ++ " (" ++ quoted c.name ++ ")"

end Creation

/-- What the statements of some tables create, in order. -/
def creations (tables : List TableDef) : List Creation :=
  (tables.flatMap TableDef.sequences).map .sequence ++ tables.map .table ++
    tables.flatMap fun t => t.indexed.map (.index t)

/-- The names of the indexes, in order. -/
def indexNames (tables : List TableDef) : List String :=
  tables.flatMap fun t => t.indexed.map t.indexName

theorem statements_creations (tables : List TableDef) :
    statements tables = mergeFunction ::
      ((creations tables).map Creation.sql ++ tables.flatMap TableDef.foreignKeySql) := by
  unfold statements creations
  simp only [List.map_append, List.map_map, List.map_flatMap]
  rfl

/-! ## Running them -/

/-- What a database server does with names: long ones are cut, and the indexes of keys and of unique
    columns get free names. -/
structure Server where
  kept : String → String
  /-- The names for the indexes of a table, given those that are there. -/
  named : List String → TableDef → List String
  fresh : ∀ there t, ∀ n ∈ named there t, n ∉ there

/-- The relations that are there by their names, each with the statement that created it; those of
    the server have none. -/
abbrev Relations := List (String × Option String)

namespace Server

variable (s : Server)

/-- The names of the relations that the server adds to one that is created. -/
def added (there : Relations) : Creation → List String
  | .table t => s.named (there.map (·.1)) t
  | _ => []

/-- Runs the statement: if there is a relation of the name, nothing is created. -/
def create (there : Relations) (c : Creation) : Relations :=
  if s.kept c.name ∈ there.map (·.1) then there
  else
    let known := there ++ [(s.kept c.name, some c.sql)]
    known ++ (s.added known c).map (·, none)

/-- Runs the statements one after the other. -/
def run (there : Relations) (cs : List Creation) : Relations := cs.foldl s.create there

/-- On an empty database the statements create the relation, or another statement of theirs with the
    same text does. -/
def Created (cs : List Creation) (c : Creation) : Prop :=
  (s.kept c.name, some c.sql) ∈ s.run [] cs

instance (cs : List Creation) (c : Creation) : Decidable (s.Created cs c) :=
  inferInstanceAs (Decidable (_ ∈ _))

/-- No two relations have one name, and each has been created by one of the statements, or by the
    server. -/
structure Lawful (cs : List Creation) (there : Relations) : Prop where
  unique : ∀ n x y, (n, x) ∈ there → (n, y) ∈ there → x = y
  made : ∀ n sql, (n, some sql) ∈ there → ∃ c ∈ cs, n = s.kept c.name ∧ sql = c.sql

variable {s} {cs : List Creation} {there : Relations} {c : Creation}

theorem create_subset (there : Relations) (c : Creation) : there ⊆ s.create there c := by
  unfold create
  split_ifs with hthere
  · exact fun _ => id
  · exact fun _ h => List.mem_append_left _ (List.mem_append_left _ h)

theorem mem_create (there : Relations) (c : Creation) :
    ∃ x, (s.kept c.name, x) ∈ s.create there c := by
  unfold create
  split_ifs with hthere
  · obtain ⟨⟨n, x⟩, hmem, rfl⟩ := List.mem_map.mp hthere
    exact ⟨x, hmem⟩
  · exact ⟨some c.sql, List.mem_append_left _ (List.mem_append_right _ List.mem_cons_self)⟩

/-- What there is behind a statement that creates its relation: what there was before, the relation,
    and what the server adds under free names. -/
theorem mem_created (hno : s.kept c.name ∉ there.map (·.1)) {n : String} {x : Option String}
    (hx : (n, x) ∈ s.create there c) :
    (n, x) ∈ there ∨ (n = s.kept c.name ∧ x = some c.sql) ∨
      (n ∉ there.map (·.1) ∧ n ≠ s.kept c.name ∧ x = none) := by
  unfold create at hx
  rw [if_neg hno] at hx
  rcases List.mem_append.mp hx with hx | hx
  · rcases List.mem_append.mp hx with hx | hx
    · exact .inl hx
    · obtain ⟨rfl, rfl⟩ := Prod.mk.inj (List.mem_singleton.mp hx)
      exact .inr (.inl ⟨rfl, rfl⟩)
  · obtain ⟨m, hm, hpair⟩ := List.mem_map.mp hx
    obtain ⟨rfl, rfl⟩ := Prod.mk.inj hpair
    cases c with
    | sequence | index => exact absurd hm List.not_mem_nil
    | table t =>
      have hfree := s.fresh _ t m hm
      rw [List.map_append, List.mem_append, not_or] at hfree
      exact .inr (.inr ⟨hfree.1, fun heq => hfree.2 (List.mem_singleton.mpr heq), rfl⟩)

theorem lawful_create (h : s.Lawful cs there) (c : Creation) :
    s.Lawful (cs ++ [c]) (s.create there c) := by
  by_cases hthere : s.kept c.name ∈ there.map (·.1)
  · have hsame : s.create there c = there := if_pos hthere
    rw [hsame]
    refine ⟨h.unique, fun n sql hmem => ?_⟩
    obtain ⟨d, hd, hmade⟩ := h.made n sql hmem
    exact ⟨d, List.mem_append_left _ hd, hmade⟩
  · constructor
    · intro n x y hx hy
      rcases mem_created hthere hx with hx | ⟨rfl, rfl⟩ | ⟨hfree, hother, rfl⟩ <;>
        rcases mem_created hthere hy with hy | ⟨hname, rfl⟩ | ⟨hfree', hother', rfl⟩
      · exact h.unique n x y hx hy
      · exact absurd (List.mem_map_of_mem hx) (hname ▸ hthere)
      · exact absurd (List.mem_map_of_mem hx) hfree'
      · exact absurd (List.mem_map_of_mem hy) hthere
      · rfl
      · exact absurd rfl hother'
      · exact absurd (List.mem_map_of_mem hy) hfree
      · exact absurd hname hother
      · rfl
    · intro n sql hmem
      rcases mem_created hthere hmem with hold | ⟨rfl, hsql⟩ | ⟨_, _, hnone⟩
      · obtain ⟨d, hd, hmade⟩ := h.made n sql hold
        exact ⟨d, List.mem_append_left _ hd, hmade⟩
      · exact ⟨c, List.mem_append_right _ List.mem_cons_self, rfl, Option.some.inj hsql⟩
      · exact absurd hnone (Option.some_ne_none sql)

theorem run_subset (cs : List Creation) (there : Relations) : there ⊆ s.run there cs := by
  induction cs generalizing there with
  | nil => exact fun _ => id
  | cons c cs ih => exact fun x hx => ih (s.create there c) (create_subset there c hx)

/-- Behind a run there is a relation of each name. -/
theorem mem_run (hc : c ∈ cs) (there : Relations) : ∃ x, (s.kept c.name, x) ∈ s.run there cs := by
  induction cs generalizing there with
  | nil => exact absurd hc List.not_mem_nil
  | cons d cs ih =>
    rcases List.mem_cons.mp hc with rfl | hc
    · obtain ⟨x, hx⟩ := mem_create (s := s) there c
      exact ⟨x, run_subset cs _ hx⟩
    · exact ih hc (s.create there d)

theorem lawful_run {earlier : List Creation} (h : s.Lawful earlier there) (cs : List Creation) :
    s.Lawful (earlier ++ cs) (s.run there cs) := by
  induction cs generalizing earlier there with
  | nil => rwa [List.append_nil]
  | cons c cs ih =>
    have hrest := ih (lawful_create h c)
    rwa [List.append_assoc, List.singleton_append] at hrest

/-- Everything is created on an empty database exactly if statements that create relations of one
    name are the same, and the server gives none of these names to an index of its own. -/
theorem all_created_iff (s : Server) (cs : List Creation) :
    (∀ c ∈ cs, s.Created cs c) ↔
      (∀ c ∈ cs, ∀ d ∈ cs, s.kept c.name = s.kept d.name → c.sql = d.sql) ∧
        ∀ c ∈ cs, (s.kept c.name, none) ∉ s.run [] cs := by
  have hempty : s.Lawful [] [] := ⟨by simp, by simp⟩
  have hlawful : s.Lawful cs (s.run [] cs) := lawful_run hempty cs
  constructor
  · intro h
    refine ⟨fun c hc d hd hname => ?_, fun c hc hnone => ?_⟩
    · have hcreated : (s.kept d.name, some c.sql) ∈ s.run [] cs := hname ▸ h c hc
      exact Option.some.inj (hlawful.unique _ _ _ hcreated (h d hd))
    · exact absurd (hlawful.unique _ _ _ (h c hc) hnone) (Option.some_ne_none _)
  · rintro ⟨hsame, hnone⟩ c hc
    obtain ⟨x, hx⟩ := mem_run (s := s) hc []
    cases x with
    | none => exact absurd hx (hnone c hc)
    | some sql =>
      obtain ⟨d, hd, hname, rfl⟩ := hlawful.made _ _ hx
      rw [← hsame c hc d hd hname] at hx
      exact hx

end Server

/-! ## Names -/

/-- The first table and column give an index the name that the second ones give: the table is longer
    by what the column has in front. -/
def Meets (a b : String × String) : Prop := ∃ m, b.1 = a.1 ++ "_" ++ m ∧ a.2 = m ++ "_" ++ b.2

/-- Two texts with a mark between them are put together as two others with the mark. -/
theorem append_mark_eq {mark : Char} {a b c d : List Char} (h : a ++ mark :: b = c ++ mark :: d) :
    (a = c ∧ b = d) ∨ (∃ m, c = a ++ mark :: m ∧ b = m ++ mark :: d) ∨
      ∃ m, a = c ++ mark :: m ∧ d = m ++ mark :: b := by
  rcases List.append_eq_append_iff.mp h with ⟨m, hc, hb⟩ | ⟨m, ha, hd⟩
  · cases m with
    | nil =>
      rw [List.append_nil] at hc
      exact .inl ⟨hc.symm, (List.cons.inj hb).2⟩
    | cons x m =>
      obtain ⟨hmark, htail⟩ := List.cons.inj hb
      subst hmark
      exact .inr (.inl ⟨m, hc, htail⟩)
  · cases m with
    | nil =>
      rw [List.append_nil] at ha
      exact .inl ⟨ha, (List.cons.inj hd).2.symm⟩
    | cons x m =>
      obtain ⟨hmark, htail⟩ := List.cons.inj hd
      subst hmark
      exact .inr (.inr ⟨m, ha, htail⟩)

/-- The name of the index of a column. -/
def placeName (a : String × String) : String := "ix_" ++ a.1 ++ "_" ++ a.2

theorem placeName_eq_iff {a b : String × String} :
    placeName a = placeName b ↔ a = b ∨ Meets a b ∨ Meets b a := by
  have hmeets (a b : String × String) : Meets a b ↔
      ∃ m, b.1.toList = a.1.toList ++ '_' :: m ∧ a.2.toList = m ++ '_' :: b.2.toList := by
    constructor
    · rintro ⟨m, hb, ha⟩
      exact ⟨m.toList, by rw [hb]; simp, by rw [ha]; simp⟩
    · rintro ⟨m, hb, ha⟩
      refine ⟨String.ofList m, String.toList_inj.mp ?_, String.toList_inj.mp ?_⟩
      · simpa using hb
      · simpa using ha
  have hname (a : String × String) :
      (placeName a).toList = "ix_".toList ++ (a.1.toList ++ '_' :: a.2.toList) := by
    simp [placeName]
  rw [← String.toList_inj, hname, hname, List.append_cancel_left_eq, hmeets, hmeets]
  constructor
  · intro h
    refine (append_mark_eq h).imp_left fun ⟨htable, hcolumn⟩ => ?_
    exact Prod.ext (String.toList_inj.mp htable) (String.toList_inj.mp hcolumn)
  · rintro (rfl | ⟨m, hb, ha⟩ | ⟨m, ha, hb⟩)
    · rfl
    · rw [hb, ha, List.append_assoc, List.cons_append]
    · rw [hb, ha, List.append_assoc, List.cons_append]

theorem not_meets_self (a : String × String) : ¬ Meets a a := by
  rintro ⟨m, hlonger, _⟩
  have hlength := congrArg String.length hlonger
  simp only [String.length_append] at hlength
  rw [show "_".length = 1 from rfl] at hlength
  omega

theorem placeNames_nodup_iff {places : List (String × String)} :
    (places.map placeName).Nodup ↔
      places.Nodup ∧ ∀ a ∈ places, ∀ b ∈ places, ¬ Meets a b := by
  constructor
  · intro h
    refine ⟨h.of_map, fun a ha b hb hmeets => ?_⟩
    have hsame : a = b :=
      List.inj_on_of_nodup_map h ha hb (placeName_eq_iff.mpr (.inr (.inl hmeets)))
    exact not_meets_self b (hsame ▸ hmeets)
  · rintro ⟨hplaces, hmeets⟩
    refine hplaces.map_on fun a ha b hb hname => ?_
    rcases placeName_eq_iff.mp hname with heq | hab | hba
    · exact heq
    · exact absurd hab (hmeets a ha b hb)
    · exact absurd hba (hmeets b hb a ha)

/-- The fields of a resource with an index of their own. -/
def indexedFields (d : ResourceDecl) : List FieldDecl :=
  d.fields.filter fun e => e.sql.isSome && (e.index && !e.unique && !e.primaryKey)

/-- The indexed columns of all tables, each with the name of its table. -/
def indexPlaces (owners : Declarations) : List (String × String) :=
  owners.flatMap fun d => (indexedFields d).map fun e => (d.tableName, e.name)

/-- The columns of some stored fields, by what fields and columns have alike. -/
theorem map_name_filterMap {p : ColumnDef → Bool} {q : FieldDecl → Bool}
    (hpq : ∀ e c, ColumnDef.ofDecl? e = some c → p c = q e) (fields : List FieldDecl) :
    ((fields.filterMap ColumnDef.ofDecl?).filter p).map (·.name) =
      (fields.filter fun e => e.sql.isSome && q e).map (·.name) := by
  induction fields with
  | nil => rfl
  | cons e fields ih =>
    rw [List.filterMap_cons, List.filter_cons]
    cases hsql : e.sql with
    | none =>
      rw [show ColumnDef.ofDecl? e = none by rw [ColumnDef.ofDecl?, hsql]; rfl]
      exact ih
    | some sql =>
      obtain ⟨c, hc, hname⟩ := ColumnDef.ofDecl?_stored (Option.isSome_of_mem hsql)
      rw [hc]
      dsimp only
      rw [List.filter_cons, hpq e c hc, Option.isSome_some, Bool.true_and]
      by_cases hown : q e = true
      · rw [if_pos hown, if_pos hown, List.map_cons, List.map_cons, hname, ih]
      · rw [if_neg hown, if_neg hown, ih]

theorem columns_ownTable (d : ResourceDecl) :
    (ownTable d).columns.map (·.name) = (d.fields.filter (·.sql.isSome)).map (·.name) := by
  have hall := map_name_filterMap (p := fun _ => true) (q := fun _ => true)
    (fun _ _ _ => rfl) d.fields
  simp only [List.filter_true, Bool.and_true] at hall
  exact hall

theorem indexed_ownTable (d : ResourceDecl) :
    (ownTable d).indexed.map (·.name) = (indexedFields d).map (·.name) := by
  refine map_name_filterMap (q := fun e => e.index && !e.unique && !e.primaryKey)
    (fun e c hc => ?_) d.fields
  obtain ⟨sql, _, rfl⟩ := Option.map_eq_some_iff.mp hc
  rfl

theorem indexNames_eq (owners : Declarations) :
    indexNames (owners.map ownTable) = (indexPlaces owners).map placeName := by
  unfold indexNames indexPlaces
  rw [List.flatMap_map, List.map_flatMap]
  refine congrArg (owners.flatMap ·) (funext fun d => ?_)
  have hnames := congrArg (List.map fun n => placeName (d.tableName, n)) (indexed_ownTable d)
  rw [List.map_map, List.map_map] at hnames
  rw [List.map_map]
  exact hnames

/-! ## Checked declarations -/

section Declared

variable {ds : Declarations} {g : Registry}

/-- What the statements of checked declarations create: the table of each resource that has one of
    its own, with a column for each stored field, and an index for each indexed one. -/
theorem declared_creations (hg : ds.resolve = .ok g) {d : ResourceDecl} (hd : d ∈ ds)
    (howns : d.isKid = false) :
    .table (ownTable d) ∈ creations g.tables ∧
      (ownTable d).columns.map (·.name) = (d.fields.filter (·.sql.isSome)).map (·.name) ∧
      ∀ e ∈ indexedFields d, ∃ c, .index (ownTable d) c ∈ creations g.tables ∧ c.name = e.name := by
  have htable := ownTable_mem (Compile.resolve_ok_iff.mp hg).2.1 hd howns
  refine ⟨?_, columns_ownTable d, fun e he => ?_⟩
  · exact List.mem_append_left _ (List.mem_append_right _ (List.mem_map_of_mem htable))
  · have hname : e.name ∈ (ownTable d).indexed.map (·.name) := by
      rw [indexed_ownTable]
      exact List.mem_map_of_mem he
    obtain ⟨c, hc, heq⟩ := List.mem_map.mp hname
    refine ⟨c, List.mem_append_right _ (List.mem_flatMap.mpr ⟨_, htable, ?_⟩), heq⟩
    exact List.mem_map_of_mem hc

/-- What the statements of checked declarations create. The tables have different names exactly if
    they are declared so, which no check demands; the indexes have, if moreover no column is indexed
    twice and no table is named like another one with the beginning of its column. On an empty
    database everything is created exactly if relations whose names are kept as one have the same
    statement, and none of these names is given by the server. -/
theorem declared_created_iff (hg : ds.resolve = .ok g) (s : Server) :
    let owners := ds.filter (!·.isKid)
    let cs := creations g.tables
    (statements g.tables = mergeFunction ::
        (cs.map Creation.sql ++ g.tables.flatMap TableDef.foreignKeySql) ∧
      ∀ d ∈ owners, .table (ownTable d) ∈ cs ∧
        (ownTable d).columns.map (·.name) = (d.fields.filter (·.sql.isSome)).map (·.name) ∧
        ∀ e ∈ indexedFields d, ∃ c, .index (ownTable d) c ∈ cs ∧ c.name = e.name) ∧
      ((g.tables.map (·.name)).Nodup ↔ (owners.map (·.tableName)).Nodup) ∧
      ((indexNames g.tables).Nodup ↔ (indexPlaces owners).Nodup ∧
        ∀ a ∈ indexPlaces owners, ∀ b ∈ indexPlaces owners, ¬ Meets a b) ∧
      ((∀ c ∈ cs, s.Created cs c) ↔
        (∀ c ∈ cs, ∀ d ∈ cs, s.kept c.name = s.kept d.name → c.sql = d.sql) ∧
          ∀ c ∈ cs, (s.kept c.name, none) ∉ s.run [] cs) := by
  intro owners cs
  have htables : g.tables = owners.map ownTable := tables_eq (Compile.resolve_ok_iff.mp hg).2.1
  refine ⟨⟨statements_creations g.tables, fun d hd => ?_⟩, ?_, ?_, Server.all_created_iff s cs⟩
  · obtain ⟨hmem, howns⟩ := List.mem_filter.mp hd
    exact declared_creations hg hmem (by simpa using howns)
  · rw [htables, List.map_map]
    rfl
  · rw [htables, indexNames_eq]
    exact placeNames_nodup_iff

end Declared

/-! ## Orders and their items -/

/-- The first of the numbered names that is free. -/
def freeName (there : List String) (stem : String) : Option String :=
  (stem :: (List.range there.length).map fun k => stem ++ toString (k + 1)).find? (· ∉ there)

/-- Free names, each given those before it. -/
def freeNames (there : List String) : List String → List String
  | [] => []
  | stem :: stems =>
    match freeName there stem with
    | some name => name :: freeNames (name :: there) stems
    | none => freeNames there stems

theorem freeNames_fresh (there stems : List String) : ∀ n ∈ freeNames there stems, n ∉ there := by
  induction stems generalizing there with
  | nil => exact fun _ hn => absurd hn List.not_mem_nil
  | cons stem stems ih =>
    intro n hn
    unfold freeNames at hn
    split at hn
    · rename_i name hfree
      unfold freeName at hfree
      have hname : name ∉ there := by simpa using List.find?_some hfree
      rcases List.mem_cons.mp hn with rfl | hn
      · exact hname
      · exact fun hthere => ih _ n hn (List.mem_cons_of_mem _ hthere)
    · exact ih _ n hn

/-- What the indexes of the keys of a table are called after. -/
def keyStems (t : TableDef) : List String :=
  (t.columns.filter (·.primaryKey)).map (fun _ => t.name ++ "_pkey") ++
    (t.columns.filter fun c => c.unique && !c.primaryKey).map (t.name ++ "_" ++ ·.name ++ "_key") ++
    t.uniqueTogether.map fun group => t.name ++ "_" ++ "_".intercalate group ++ "_key"

/-- The first characters that take no more than so many bytes. -/
def clipped : Nat → List Char → List Char
  | _, [] => []
  | room, c :: cs => if c.utf8Size ≤ room then c :: clipped (room - c.utf8Size) cs else []

/-- A server that keeps 63 bytes of a name. -/
def server : Server where
  kept name := String.ofList (clipped 63 name.toList)
  named there t := freeNames there (keyStems t)
  fresh there t := freeNames_fresh there (keyStems t)

/-- Orders and their items, each with an indexed column. -/
def orders (first second : String) : Declarations :=
  [.plain "Order" "order" [.key "id",
      { FieldDecl.plain first .integer (some (.simple "int")) with index := true }],
    .plain "OrderItem" "order_item" [.key "id",
      { FieldDecl.plain second .integer (some (.simple "int")) with index := true }]]

/-- Everything is created for orders with an item and items with a code. -/
theorem orders_created :
    ∃ g, (orders "item" "code").resolve = .ok g ∧ (indexNames g.tables).Nodup ∧
      ∀ c ∈ creations g.tables, server.Created (creations g.tables) c := by
  obtain ⟨g, hg, _⟩ := Compile.exists_resolved (orders "item" "code") (fun _ => true)
    (by decide +kernel) (by decide +kernel)
  have htables : g.tables = (orders "item" "code").map ownTable :=
    tables_eq (Compile.resolve_ok_iff.mp hg).2.1
  obtain ⟨_, _, _, hcreated⟩ := declared_created_iff hg server
  refine ⟨g, hg, ?_, hcreated.mpr ?_⟩
  · rw [htables]
    decide +kernel
  · rw [htables]
    decide +kernel

/-- The index of the items is called like the one of the orders, and is not created. -/
theorem second_index_skipped :
    ∃ g, (orders "item_code" "code").resolve = .ok g ∧ ¬ (indexNames g.tables).Nodup ∧
      ∃ c ∈ creations g.tables, c.sql =
          "CREATE INDEX IF NOT EXISTS \"ix_order_item_code\" ON \"order_item\" (\"code\")" ∧
        ¬ server.Created (creations g.tables) c := by
  obtain ⟨g, hg, _⟩ := Compile.exists_resolved (orders "item_code" "code") (fun _ => true)
    (by decide +kernel) (by decide +kernel)
  have htables : g.tables = (orders "item_code" "code").map ownTable :=
    tables_eq (Compile.resolve_ok_iff.mp hg).2.1
  refine ⟨g, hg, ?_⟩
  rw [htables]
  decide +kernel

end RowServe.Provision
