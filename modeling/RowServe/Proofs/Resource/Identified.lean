import RowServe.Proofs.Declaration.Tables
import RowServe.Proofs.Resource.Lookups
import RowServe.Proofs.Resource.SameRows
import RowServe.Proofs.Resource.Spelling
import RowServe.Proofs.Store.Cleanup

/-!
# Names that are declared

Where the quoted names of a statement come from. Tables and columns are declared, names of
joins are made from the names of fields, and a few labels are fixed. Only the keys of an
object for a linked row are written as they are, as the names of columns.

Results:

* `named_operand`, `identifies_join`, `identifies_dependent`: names of declarations.
* `named_call`: a statement with a filter has declared names exactly if the keys of the
  objects for linked rows are such.
* `named_insert`, `named_cleanup`: other statements have declared names.
-/

namespace RowServe

open Sql (Token)

/-- The declarations fix the name for statements of the resource: it is that of a table or a
    column, or of a join, or a label; a table that is cleaned up has a second name. -/
inductive Registry.Identifies (g : Registry) (r : Resource) : String → Prop where
  | table {t : TableDef} (ht : t ∈ g.tables) : Identifies g r t.name
  | column {t : TableDef} (ht : t ∈ g.tables) {c : ColumnDef} (hc : c ∈ t.columns) :
      Identifies g r c.name
  | joined {j : Join} (hj : j ∈ r.joins) : Identifies g r j.aliasName
  | label {n : String} (hn : n ∈ ["inner", "outer"]) : Identifies g r n
  | stage {t : TableDef} (ht : t ∈ g.tables) : Identifies g r (t.name ++ "_cleanup")

theorem Registry.identifies_iff {g : Registry} {r : Resource} {n : String} :
    g.Identifies r n ↔
      (∃ t ∈ g.tables, n = t.name ∨ n ∈ t.columns.map (·.name) ∨ n = t.name ++ "_cleanup") ∨
        n ∈ r.joins.map (·.aliasName) ∨ n ∈ ["inner", "outer"] := by
  constructor
  · rintro (ht | ⟨ht, hc⟩ | hj | hn | ht)
    · exact .inl ⟨_, ht, .inl rfl⟩
    · exact .inl ⟨_, ht, .inr (.inl (List.mem_map_of_mem hc))⟩
    · exact .inr (.inl (List.mem_map_of_mem hj))
    · exact .inr (.inr hn)
    · exact .inl ⟨_, ht, .inr (.inr rfl)⟩
  · rintro (⟨t, ht, rfl | hmem | rfl⟩ | hmem | hn)
    · exact .table ht
    · obtain ⟨c, hc, rfl⟩ := List.mem_map.mp hmem
      exact .column ht hc
    · exact .stage ht
    · obtain ⟨j, hj, rfl⟩ := List.mem_map.mp hmem
      exact .joined hj
    · exact .label hn

/-! ## Names among tokens -/

namespace Sql

/-- All names among some tokens have a property. -/
def Named (P : String → Prop) (ts : List Token) : Prop := ∀ n, .name n ∈ ts → P n

variable {P : String → Prop} {ts us : List Token}

@[simp] theorem named_nil : Named P [] := fun _ h => absurd h List.not_mem_nil

@[simp] theorem named_name (s : String) : Named P (.name s :: ts) ↔ P s ∧ Named P ts := by
  simp [Named, or_imp, forall_and]

@[simp] theorem named_place (k : Nat) : Named P (.place k :: ts) ↔ Named P ts := by
  simp [Named]

@[simp] theorem named_append : Named P (ts ++ us) ↔ Named P ts ∧ Named P us := by
  simp [Named, or_imp, forall_and]

@[simp] theorem named_flatMap {α : Type} (as : List α) (f : α → List Token) :
    Named P (as.flatMap f) ↔ ∀ a ∈ as, Named P (f a) := by
  simp only [Named, List.mem_flatMap]
  exact ⟨fun h a ha n hn => h n ⟨a, ha, hn⟩, fun h n ⟨a, ha, hn⟩ => h a ha n hn⟩

/-- Apart from subqueries, conditions name what they are about. -/
theorem named_condition {c : Condition} (h : Named P c.subject.tokens)
    (hplain : ∀ x table column cs, c ≠ .among x table column cs) : Named P c.tokens := by
  cases c with
  | compare c =>
    cases c <;> simpa [Condition.tokens, Comparison.tokens, Condition.subject] using h
  | isJsonNull x => simpa [Condition.tokens, Condition.subject] using h
  | contains x p | hasText x p => simpa [Condition.tokens, Condition.subject] using h
  | among x table column cs => exact absurd rfl (hplain x table column cs)

end Sql

open Sql (Named)

/-! ## Declared names -/

namespace Compile

variable {ds : Declarations} {d : ResourceDecl} {g : Registry} {r : Resource}

/-- The owner of the table of a resource is declared, and not kept inside another one. -/
theorem owner_plain (hcheck : ds.check = .ok ()) (hd : d ∈ ds) :
    ds.owner d ∈ ds ∧ (ds.owner d).isKid = false := by
  unfold Declarations.owner
  cases hext : d.info.extendsOn with
  | none =>
    refine ⟨hd, ?_⟩
    unfold ResourceDecl.isKid
    rw [hext]
    rfl
  | some ext =>
    obtain ⟨parent, hparent, hplain, _⟩ := Declarations.check_extension hcheck hd hext
    dsimp only
    rw [hparent]
    exact ⟨List.mem_of_find?_eq_some hparent, hplain⟩

/-- A resource with a table of its own has names for it, and for its stored fields. -/
theorem identifies_declared (hg : ds.resolve = .ok g) (hd : d ∈ ds) (hplain : d.isKid = false) :
    g.Identifies r d.tableName ∧ g.Identifies r (d.tableName ++ "_cleanup") ∧
      (∀ e ∈ d.fields, e.sql.isSome = true → g.Identifies r e.name) ∧
      ∀ pk, d.primaryKey? = some pk → g.Identifies r pk.name := by
  obtain ⟨_, htables, _⟩ := resolve_ok_iff.mp hg
  obtain ⟨hkey, t, ht, hname, hcolumns⟩ := TableDef.mem_ofDecls htables hd hplain
  have hstored : ∀ e ∈ d.fields, e.sql.isSome = true → g.Identifies r e.name := by
    intro e he hsql
    obtain ⟨c, hc, hcname⟩ := hcolumns e he hsql
    exact hcname ▸ .column ht hc
  rw [← hname]
  exact ⟨.table ht, .stage ht, hstored, fun pk hpk =>
    hstored pk (List.mem_of_find?_eq_some hpk) (TableDef.checkKey_ok hkey hpk)⟩

/-- The table of a resource is that of its owner, with the key and the dependents of it. -/
theorem resource_owner (hr : resource ds d = .ok r) :
    r.table = (ds.owner d).tableName ∧
      (∃ pk, (ds.owner d).primaryKey? = some pk ∧ r.pk = pk.name) ∧
      r.dependents = dependentsOf ds r.table r.pk := by
  obtain ⟨p, templates, hp, _, rfl⟩ := resource_ok_iff.mp hr
  rw [← hp.owner_eq]
  exact ⟨rfl, ⟨p.pk, hp.pk, rfl⟩, rfl⟩

/-- A field in a column is declared with a type by the owner of the table; one inside a
    document is kept in the extended column. -/
theorem fieldsOf_stored {owner : ResourceDecl} {f : Field} (hf : f ∈ fieldsOf ds d owner) :
    (f.storage = .column → f.decl ∈ owner.fields ∧ f.decl.sql.isSome = true) ∧
      ∀ column, f.storage = .extension column →
        ∃ ext, d.info.extendsOn = some ext ∧ ext.column = column := by
  unfold fieldsOf at hf
  rcases List.mem_append.mp hf with hf | hf
  · obtain ⟨e, he, rfl⟩ := List.mem_map.mp hf
    have hstorage : (fieldOf ds owner (storageOf e) e).storage =
        if e.sql.isSome then .column else .virtual := rfl
    rw [hstorage]
    split_ifs with hstored
    · exact ⟨fun _ => ⟨he, hstored⟩, fun column h => by contradiction⟩
    · exact ⟨fun h => by contradiction, fun column h => by contradiction⟩
  · split at hf
    · exact absurd hf List.not_mem_nil
    · rename_i ext hext
      obtain ⟨e, _, rfl⟩ := List.mem_map.mp hf
      exact ⟨fun h => by contradiction, fun column h => ⟨ext, hext, Storage.extension.inj h⟩⟩

theorem field_stored (hr : resource ds d = .ok r) {f : Field} (hf : f ∈ r.fields) :
    (f.storage = .column → f.decl ∈ (ds.owner d).fields ∧ f.decl.sql.isSome = true) ∧
      ∀ column, f.storage = .extension column →
        ∃ ext, d.info.extendsOn = some ext ∧ ext.column = column := by
  obtain ⟨p, templates, hp, _, rfl⟩ := resource_ok_iff.mp hr
  have hf : f ∈ fieldsOf ds d (p.owner d) := hf
  rw [hp.owner_eq] at hf
  exact fieldsOf_stored hf

theorem identifies_table (hg : ds.resolve = .ok g) (hr : r ∈ g.resources) :
    g.Identifies r r.table ∧ g.Identifies r r.pk := by
  obtain ⟨hcheck, _, _⟩ := resolve_ok_iff.mp hg
  obtain ⟨d, hd, hcompiled⟩ := mem_resolved hg hr
  obtain ⟨howner, hplain⟩ := owner_plain hcheck hd
  obtain ⟨htable, ⟨pk, hpk, hname⟩, _⟩ := resource_owner hcompiled
  obtain ⟨hidentified, _, _, hkey⟩ := identifies_declared (r := r) hg howner hplain
  rw [htable, hname]
  exact ⟨hidentified, hkey pk hpk⟩

theorem identifies_column (hg : ds.resolve = .ok g) (hr : r ∈ g.resources) {f : Field}
    (hf : f ∈ r.fields) (hcolumn : f.storage = .column) : g.Identifies r f.name := by
  obtain ⟨hcheck, _, _⟩ := resolve_ok_iff.mp hg
  obtain ⟨d, hd, hcompiled⟩ := mem_resolved hg hr
  obtain ⟨howner, hplain⟩ := owner_plain hcheck hd
  obtain ⟨hdecl, hstored⟩ := (field_stored hcompiled hf).1 hcolumn
  exact (identifies_declared hg howner hplain).2.2.1 f.decl hdecl hstored

/-- Where the value of a field is read has declared names. -/
theorem named_operand (hg : ds.resolve = .ok g) (hr : r ∈ g.resources) {f : Field}
    (hf : f ∈ r.fields) {x : Sql.Operand} (hx : r.operand? f = some x) :
    Named (g.Identifies r) x.tokens := by
  have htable := (identifies_table hg hr).1
  obtain ⟨hcheck, _, _⟩ := resolve_ok_iff.mp hg
  obtain ⟨d, hd, hcompiled⟩ := mem_resolved hg hr
  unfold TableView.operand? at hx
  cases hstorage : f.storage with
  | column =>
    rw [hstorage] at hx
    rw [← Option.some.inj hx]
    simp [Sql.Operand.tokens, htable, identifies_column hg hr hf hstorage]
  | extension column =>
    rw [hstorage] at hx
    obtain ⟨ext, hext, rfl⟩ := (field_stored hcompiled hf).2 column hstorage
    obtain ⟨parent, hparent, hplain, e, he, hname, hstored⟩ :=
      Declarations.check_extension hcheck hd hext
    have hcolumn := (identifies_declared (r := r) hg (List.mem_of_find?_eq_some hparent)
      hplain).2.2.1 e he hstored
    rw [hname] at hcolumn
    rw [← Option.some.inj hx]
    simp [Sql.Operand.tokens, htable, hcolumn]
  | virtual =>
    rw [hstorage] at hx
    contradiction

theorem field_target (hr : resource ds d = .ok r) {f : Field} (hf : f ∈ r.fields)
    {table column : String} (hkind : f.kind = .foreignKey table column) :
    f.storage = .column ∧ f.decl.target? = some (table, column) := by
  obtain ⟨p, templates, _, _, rfl⟩ := resource_ok_iff.mp hr
  exact fieldsOf_foreignKey hf hkind

/-- A join has declared names, and so have all columns of the linked row that are shown or
    filtered by. -/
theorem identifies_join (hg : ds.resolve = .ok g) (hr : r ∈ g.resources) {j : Join}
    (hj : j ∈ r.joins) :
    (g.Identifies r j.table ∧ g.Identifies r j.column ∧ g.Identifies r j.field) ∧
      (∀ list, ∀ k ∈ j.listed list, g.Identifies r k) ∧
      ∀ k, j.casts.has k = true → g.Identifies r k := by
  obtain ⟨hcheck, _, _⟩ := resolve_ok_iff.mp hg
  obtain ⟨d, hd, hcompiled⟩ := mem_resolved hg hr
  obtain ⟨f, target, hfind, hkind, htarget, _, hget, hlist, hcasts⟩ := join_parts hcompiled hj
  have hfield := List.mem_of_find?_eq_some hfind
  obtain ⟨hcolumn, hreference⟩ := field_target hcompiled hfield hkind
  obtain ⟨hmem, hplain, hname⟩ := Declarations.byTable?_some htarget
  obtain ⟨htable, _, hstored, _⟩ := identifies_declared (r := r) hg hmem hplain
  have hlisted (names : List String) : ∀ k ∈ stored target names, g.Identifies r k := by
    intro k hk
    have hany := (List.mem_filter.mp hk).2
    rw [Option.any_eq_true] at hany
    obtain ⟨e, he, hsql⟩ := hany
    exact ResourceDecl.field?_name he ▸ hstored e (List.mem_of_find?_eq_some he) hsql
  refine ⟨⟨hname ▸ htable, ?_, ?_⟩, fun list k hk => ?_, fun k hk => ?_⟩
  · obtain ⟨howner, _⟩ := owner_plain hcheck hd
    obtain ⟨hdecl, _⟩ := (field_stored hcompiled hfield).1 hcolumn
    obtain ⟨⟨target', htarget', c, hc, hcname, hsql⟩, _⟩ :=
      Declarations.check_reference hcheck howner hdecl hreference
    obtain rfl : target = target' := Option.some.inj (htarget.symm.trans htarget')
    exact hcname ▸ hstored c hc hsql
  · exact TableView.field?_name hfind ▸ identifies_column hg hr hfield hcolumn
  · unfold Join.listed at hk
    rw [hget, hlist] at hk
    cases list
    · exact hlisted _ k hk
    · exact hlisted _ k hk
  · rw [hcasts] at hk
    have hhas := ((Keyed.has_union [] _ k).mp hk).resolve_left Bool.false_ne_true
    obtain ⟨entry, hentry, rfl⟩ := List.mem_map.mp ((Keyed.has_iff_mem_keys _ k).mp hhas)
    obtain ⟨e, he, hsome⟩ := List.mem_filterMap.mp hentry
    obtain ⟨sql, hsql, rfl⟩ := Option.map_eq_some_iff.mp hsome
    exact hstored e he (Option.isSome_of_mem hsql)

/-- Columns that hold keys of the resource have declared names, and so have their tables. -/
theorem identifies_dependent (hg : ds.resolve = .ok g) (hr : r ∈ g.resources) {x : Dependent}
    (hx : x ∈ r.dependents) :
    ∀ n ∈ [x.table, x.pk, x.column, x.table ++ "_cleanup"], g.Identifies r n := by
  obtain ⟨hcheck, _, _⟩ := resolve_ok_iff.mp hg
  obtain ⟨d, _, hcompiled⟩ := mem_resolved hg hr
  rw [(resource_owner hcompiled).2.2] at hx
  obtain ⟨other, hother, hx⟩ := List.mem_flatMap.mp hx
  obtain ⟨hmem, hplain⟩ := List.mem_filter.mp hother
  obtain ⟨htable, hstage, hstored, hkey⟩ :=
    identifies_declared (r := r) hg hmem (by simpa using hplain)
  cases hpk : other.primaryKey? with
  | none =>
    rw [hpk] at hx
    exact absurd hx List.not_mem_nil
  | some pk =>
    rw [hpk] at hx
    obtain ⟨e, he, rfl⟩ := List.mem_map.mp hx
    obtain ⟨he, htarget⟩ := List.mem_filter.mp he
    simp only [Bool.and_eq_true, decide_eq_true_eq] at htarget
    have hmany : e.many = true := by
      have h := htarget.1
      unfold FieldDecl.isManyToMany at h
      exact (Bool.and_eq_true_iff.mp h).2
    have hcolumn := hstored e he ((Declarations.check_reference hcheck hmem he htarget.2).2 hmany)
    simpa using ⟨htable, hkey pk hpk, hcolumn, hstage⟩

end Compile

/-! ## Names of conditions -/

namespace Filter

open Sql (Binds)

variable {P : String → Prop} {b : Binds} {view : TableView}

/-- The conditions on a row itself name the place of a field. -/
theorem named_ownAt {f : Field} {v : Json}
    (h : ∀ x, view.operand? f = some x → Named P x.tokens) {c : Conjunct}
    (hc : c ∈ ownAt b view f v) : Named P c.condition.tokens := by
  unfold ownAt entryAt at hc
  cases hread : reading view f v with
  | none =>
    rw [hread] at hc
    exact absurd hc List.not_mem_nil
  | document x =>
    rw [hread] at hc
    rw [List.mem_singleton.mp hc]
    refine Sql.named_condition ?_ fun _ _ _ _ => ?_
    · rw [documentConditionAt_subject]
      exact h x (reading_operand (.inl hread))
    · unfold documentConditionAt
      dsimp only
      split_ifs <;> simp
  | contains x part =>
    rw [hread] at hc
    rw [List.mem_singleton.mp hc]
    exact Sql.named_condition (h x (reading_operand (.inr (.inl ⟨part, hread⟩)))) (by simp)
  | linked x j entries =>
    rw [hread] at hc
    exact absurd hc List.not_mem_nil
  | flat x =>
    rw [hread] at hc
    refine Sql.named_condition ?_ fun _ _ _ _ => ?_
    · rw [(flatAt_about hc).2]
      exact h x (reading_operand (.inr (.inr (.inr hread))))
    · unfold flatAt at hc
      split_ifs at hc <;> simp [List.mem_singleton.mp hc]

theorem named_comparisonAt (source field : String) (casts : Keyed String) (key : String)
    (v : Json) :
    Named P (comparisonAt b source field casts key v).tokens ↔ P source ∧ P key := by
  unfold comparisonAt
  split_ifs <;> simp [Sql.Comparison.tokens, Sql.Operand.tokens]

/-- The conditions on a linked row name the keys of the object. -/
theorem named_linkedAt {j : Join} {mode : WhereMode} {entries : Object}
    (htable : P view.table) (hjoin : Named P j.tokens) :
    (∀ c ∈ linkedAt b j (.column view.table j.field) mode entries, Named P c.condition.tokens) ↔
      ∀ e ∈ entries, P e.1 := by
  obtain ⟨⟨hsource, halias, -⟩, ⟨-, hcolumn, -⟩, -, hfield, -⟩ :
      (P j.table ∧ P j.aliasName ∧ Named P []) ∧ (P j.aliasName ∧ P j.column ∧ Named P []) ∧
        P j.ownTable ∧ P j.field ∧ Named P [] := by
    simpa [Join.tokens, and_assoc] using hjoin
  have hcompare (source : String) (hsource : P source) :
      (∀ e ∈ entries,
          Named P (comparisonAt b source j.field j.casts e.1 e.2).tokens) ↔ ∀ e ∈ entries, P e.1 :=
    forall₂_congr fun e _ => by rw [named_comparisonAt, and_iff_right hsource]
  unfold linkedAt
  cases mode with
  | select => exact List.forall_mem_map.trans (hcompare j.aliasName halias)
  | mutate =>
    dsimp only
    split_ifs with hnone
    · simp [List.isEmpty_iff.mp hnone]
    · rw [← hcompare j.table hsource, List.forall_mem_singleton]
      simp only [Sql.Condition.tokens, Sql.Operand.tokens, Sql.named_append, Sql.named_name,
        Sql.named_nil, and_true, Sql.named_flatMap, List.forall_mem_map, htable, hfield, hsource,
        hcolumn, true_and]

end Filter

/-! ## Names of statements -/

namespace Compile

open Selection (Asks Chosen Reaches)

variable {ds : Declarations} {g : Registry} {r : Resource}
variable {names : Option (List String)} {selection : Option (List Selected)} {list : Bool}

theorem named_join (hg : ds.resolve = .ok g) (hr : r ∈ g.resources) {j : Join} (hj : j ∈ r.joins) :
    Named (g.Identifies r) j.tokens := by
  obtain ⟨⟨htable, hcolumn, hfield⟩, _⟩ := identifies_join hg hr hj
  have hown : g.Identifies r j.ownTable :=
    (join_ownTable hg hr hj).symm ▸ (identifies_table hg hr).1
  simp [Join.tokens, htable, hcolumn, hfield, hown, Registry.Identifies.joined hj]

theorem identifies_reached (hg : ds.resolve = .ok g) (hr : r ∈ g.resources) {j : Join}
    (hj : j ∈ r.joins) {c : String} (h : Reaches r names list j c) : g.Identifies r c := by
  obtain ⟨⟨_, hcolumn, _⟩, hlisted, hcasts⟩ := identifies_join hg hr hj
  cases h with
  | key _ _ => exact hcolumn
  | part h =>
    obtain ⟨i, hi, hcast⟩ := Selection.asks_part h
    rw [join?_of_mem hg hr hj] at hi
    exact hcasts c (Option.some.inj hi ▸ hcast)
  | whole _ _ hc => exact hlisted list c hc

/-- What a read shows has declared names. -/
theorem named_shown (hg : ds.resolve = .ok g) (hr : r ∈ g.resources)
    (hs : Chosen r names selection) : Named (g.Identifies r) (r.shownTokens selection list) := by
  unfold Resource.shownTokens
  rw [Sql.named_flatMap]
  rintro ⟨n, x⟩ hmem
  cases x with
  | stored x =>
    obtain ⟨_, _, hx⟩ := (Selection.shownTo_own hg hr hs n x).mp hmem
    obtain ⟨f, hf, hx⟩ := Option.bind_eq_some_iff.mp hx
    exact named_operand hg hr (List.mem_of_find?_eq_some hf) hx
  | joined source key columns =>
    obtain ⟨j, hj, rfl, rfl, hreach⟩ := Selection.shownTo_linked hg hr hs hmem
    have hcolumns : ∀ c ∈ key :: columns, g.Identifies r c := fun c hc =>
      identifies_reached hg hr hj ((hreach c).mp hc)
    obtain ⟨hkey, hcolumns⟩ := List.forall_mem_cons.mp hcolumns
    simpa [Sql.Shown.tokens, Registry.Identifies.joined hj, hkey] using hcolumns

theorem named_joins (hg : ds.resolve = .ok g) (hr : r ∈ g.resources) (active : List String) :
    Named (g.Identifies r) (r.joinTokens active) := by
  unfold Resource.joinTokens
  rw [Sql.named_flatMap]
  exact fun j hj => named_join hg hr (List.mem_filter.mp hj).1

theorem named_order (hg : ds.resolve = .ok g) (hr : r ∈ g.resources) (names : List String) :
    Named (g.Identifies r) (r.orderTokens names) := by
  unfold Resource.orderTokens
  rw [Sql.named_flatMap]
  intro x hx
  obtain ⟨f, hf, hx⟩ := List.mem_filterMap.mp hx
  obtain ⟨n, _, hfind⟩ := List.mem_filterMap.mp hf
  exact named_operand hg hr (List.mem_of_find?_eq_some hfind) hx

/-- The conditions of a filter have declared names exactly if the keys of its objects for
    linked rows are such. -/
theorem named_clause (hg : ds.resolve = .ok g) (hr : r ∈ g.resources) (filter : Object)
    (mode : WhereMode) :
    Named (g.Identifies r) (r.conditions filter [] mode).tokens ↔
      ∀ j ∈ r.joins, ∀ entries, filter.find? j.field = some (.obj entries) →
        ∀ e ∈ entries, g.Identifies r e.1 := by
  rw [Resource.conditions_eq]
  generalize Filter.bindAll [] _ = b
  have hentries : Named (g.Identifies r)
        (⟨Filter.conjunctsAt b r.toTableView mode
          (Filter.entriesOf r.toTableView filter)⟩ : WhereClause).tokens ↔
      ∀ e ∈ Filter.entriesOf r.toTableView filter, ∀ x j entries,
        Filter.reading r.toTableView e.1 e.2 = .linked x j entries →
          ∀ c ∈ Filter.linkedAt b j x mode entries, Named (g.Identifies r) c.condition.tokens := by
    unfold WhereClause.tokens Filter.conjunctsAt
    rw [Sql.named_flatMap, List.forall_mem_map, List.forall_mem_flatMap]
    refine forall₂_congr fun e he => ?_
    rw [Filter.entryAt_eq, List.forall_mem_append, and_iff_right fun c hc => Filter.named_ownAt
      (fun x hx => named_operand hg hr (Filter.mem_entriesOf.mp he).1 hx) hc]
    cases Filter.reading r.toTableView e.1 e.2 <;> simp
  rw [hentries, forall_linked hg hr]
  exact forall₂_congr fun j hj => forall₂_congr fun entries _ =>
    Filter.named_linkedAt (identifies_table hg hr).1 (named_join hg hr hj)

theorem named_changed (hg : ds.resolve = .ok g) (hr : r ∈ g.resources) {payload : Object}
    {skip : Option String} {e : Field × Json}
    (he : e ∈ Change.changed payload skip (r.fields.filter Field.isColumn)) :
    g.Identifies r e.1.name := by
  obtain ⟨hf, hcolumn⟩ := List.mem_filter.mp (Change.mem_changed he).1
  exact identifies_column hg hr hf (of_decide_eq_true hcolumn)

/-- The values that an update writes have declared names. -/
theorem named_assignments (hg : ds.resolve = .ok g) (hr : r ∈ g.resources) (op : Operation)
    (filter payload : Object) :
    Named (g.Identifies r)
      ((r.assignmentsBehind op filter payload).flatMap Sql.Assignment.tokens) := by
  unfold Resource.assignmentsBehind
  rw [Change.assignments_eq, Sql.named_flatMap]
  intro a ha
  obtain ⟨e, he, rfl⟩ := List.mem_map.mp ha
  have hcolumn := named_changed hg hr he
  have htable := (identifies_table hg hr).1
  unfold Change.assignedAt Sql.Assignment.tokens
  dsimp only
  split_ifs <;> simp [Sql.Assigned.tokens, Sql.Operand.tokens, hcolumn, htable]

end Compile

/-- What the statement shows is what a request asks for. -/
def Call.Asked (r : Resource) : Call → Prop
  | .get _ selection | .list _ _ selection => ∃ names, Selection.Chosen r names selection
  | .update _ _ _ | .delete _ _ => True

namespace Compile

variable {ds : Declarations} {g : Registry} {r : Resource}

/-- A statement with a filter has declared names exactly if the keys of the objects for
    linked rows are such. -/
theorem named_call (hg : ds.resolve = .ok g) (hr : r ∈ g.resources) {call : Call}
    (hasked : call.Asked r) :
    Named (g.Identifies r) (call.tokens r) ↔
      ∀ j ∈ r.joins, ∀ entries, call.filter.find? j.field = some (.obj entries) →
        ∀ e ∈ entries, g.Identifies r e.1 := by
  obtain ⟨htable, hkey⟩ := identifies_table hg hr
  have hinner : g.Identifies r "inner" := .label (by decide)
  have houter : g.Identifies r "outer" := .label (by decide)
  have hclause : Named (g.Identifies r) (call.clause r).tokens ↔
      ∀ j ∈ r.joins, ∀ entries, call.filter.find? j.field = some (.obj entries) →
        ∀ e ∈ entries, g.Identifies r e.1 := by
    cases call with
    | get | list => exact named_clause hg hr _ .select
    | update | delete => exact named_clause hg hr _ .mutate
  rw [← hclause]
  cases call with
  | get filter selection =>
    obtain ⟨names, hs⟩ := hasked
    simp [Call.tokens, named_shown hg hr hs, named_joins hg hr, hinner, htable]
  | list filter page selection =>
    obtain ⟨names, hs⟩ := hasked
    simp [Call.tokens, named_shown hg hr hs, named_joins hg hr, named_order hg hr, hinner, houter,
      htable]
  | update op filter payload =>
    have hassigned := named_assignments hg hr op filter payload
    rw [Sql.named_flatMap] at hassigned
    simpa [Call.tokens, Call.assignments, htable] using fun _ => hassigned
  | delete deep filter => cases deep <;> simp [Call.tokens, htable, hkey]

/-- An insert has declared names. -/
theorem named_insert (hg : ds.resolve = .ok g) (hr : r ∈ g.resources) (payload : Object) :
    Named (g.Identifies r) (r.insertTokens payload) := by
  obtain ⟨htable, hkey⟩ := identifies_table hg hr
  have hvalue : ∀ a ∈ r.insertedValues payload,
      g.Identifies r a.column ∧ Named (g.Identifies r) a.value.tokens := by
    intro a ha
    rcases List.mem_append.mp ha with ha | ha
    · obtain ⟨sequence, _, rfl⟩ := Option.map_eq_some_iff.mp (Option.mem_toList.mp ha)
      exact ⟨hkey, Sql.named_nil⟩
    · obtain ⟨e, he, rfl⟩ := List.mem_map.mp ha
      refine ⟨named_changed hg hr he, ?_⟩
      unfold Change.insertedAt
      dsimp only
      split_ifs <;> simp [Sql.Assigned.tokens]
  unfold Resource.insertTokens
  simpa [htable, hkey, ← forall₂_and] using hvalue

/-- The statement that removes deleted keys has declared names. -/
theorem named_cleanup (hg : ds.resolve = .ok g) (hr : r ∈ g.resources) :
    Named (g.Identifies r) (cleanupTokens r.dependents) := by
  intro n hn
  obtain ⟨x, hx, hname⟩ := name_mem_cleanup hn
  exact identifies_dependent hg hr hx n hname

end Compile

end RowServe
