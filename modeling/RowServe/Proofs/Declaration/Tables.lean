import RowServe.Proofs.Declaration.Checked
import RowServe.Table.Definition

/-!
# Tables of checked declarations

What the checks say of the names that statements are made of. A resource that is not kept
inside another one has a table with a column for each stored field, its key among them; a
column that is extended or referred to is stored as well.

Results:

* `check_listed`: the lists of a resource name its fields and those it inherits.
* `check_extension`: a nested extension is kept in a stored column.
* `check_reference`: a reference leads to a stored column.
* `ofDecls_made`: the tables are those of the resources that have one, in order.
* `mem_ofDecls`: the table of a resource has its stored fields as columns.
-/

namespace RowServe

namespace Declarations

variable {ds : Declarations} {d : ResourceDecl}

/-! ## Checked resources -/

theorem checkFrom_each {rest : Declarations} {claimed : Claimed}
    (h : checkFrom ds claimed rest = .ok ()) (hd : d ∈ rest) :
    ∃ before after, checkResource ds before d = .ok after := by
  induction rest generalizing claimed with
  | nil => exact absurd hd List.not_mem_nil
  | cons e rest ih =>
    obtain ⟨after, he, h⟩ := bind_eq_ok.mp h
    rcases List.mem_cons.mp hd with rfl | hd
    · exact ⟨claimed, after, he⟩
    · exact ih h hd

/-- The fields of a checked resource have passed their checks. -/
theorem check_field (h : ds.check = .ok ()) (hd : d ∈ ds) {e : FieldDecl} (he : e ∈ d.fields) :
    checkField ds d e = .ok () := by
  obtain ⟨before, after, hresource⟩ := checkFrom_each h hd
  obtain ⟨_, _, _, _, _, _, hfields⟩ := checkResource_ok hresource
  exact hfields e he

/-- A nested extension is kept in a stored column of a resource with a table of its own. -/
theorem check_extension (h : ds.check = .ok ()) (hd : d ∈ ds) {ext : Extension}
    (hext : d.info.extendsOn = some ext) :
    ∃ parent, ds.byName? ext.parent = some parent ∧ parent.isKid = false ∧
      ∃ e ∈ parent.fields, e.name = ext.column ∧ e.sql.isSome = true := by
  obtain ⟨before, after, hresource⟩ := checkFrom_each h hd
  obtain ⟨_, _, _, _, hextension, _⟩ := checkResource_ok hresource
  rcases checkExtension_ok hextension with
    ⟨hnone, _⟩ | ⟨ext', q, e, hext', hq, hplain, he, hjsonb, _⟩
  · rw [hnone] at hext
    contradiction
  · obtain rfl := Option.some.inj (hext'.symm.trans hext)
    obtain ⟨sql, hsql, _⟩ := (Option.any_eq_true _ _).mp hjsonb
    exact ⟨q, hq, hplain, e, List.mem_of_find?_eq_some he, ResourceDecl.field?_name he,
      Option.isSome_of_mem hsql⟩

/-- The resource has a field of the name, or the one that it extends has. -/
def Knows (ds : Declarations) (d : ResourceDecl) (n : String) : Prop :=
  d.hasField n = true ∨ ∃ ext parent, d.info.extendsOn = some ext ∧
    ds.byName? ext.parent = some parent ∧ parent.hasField n = true

theorem checkNames_ok {list : FieldList} {names : List String} {inherited : List ResourceDecl}
    (h : checkNames d list names inherited = .ok ()) :
    ∀ n ∈ names, d.hasField n = true ∨ ∃ q ∈ inherited, q.hasField n = true := by
  intro n hn
  simpa using ensure_ok ((forEach_ok_iff _ _).mp h n hn)

/-- The lists of a resource name its fields and those it inherits; columns that are unique
    together are fields of its own. -/
theorem check_listed (h : ds.check = .ok ()) (hd : d ∈ ds) :
    (∀ names ∈ [d.info.getBy, d.info.listBy, d.info.deleteBy], ∀ n ∈ names.getD [],
        ds.Knows d n) ∧
      ∀ group ∈ d.info.uniqueTogether, ∀ n ∈ group, d.hasField n = true := by
  obtain ⟨before, after, hresource⟩ := checkFrom_each h hd
  obtain ⟨routed, parent, _, _, hextension, hlists, _⟩ := checkResource_ok hresource
  unfold checkLists at hlists
  obtain ⟨_, hget, hlists⟩ := bind_eq_ok.mp hlists
  obtain ⟨_, hlist, hlists⟩ := bind_eq_ok.mp hlists
  obtain ⟨_, hdelete, hlists⟩ := bind_eq_ok.mp hlists
  obtain ⟨_, _, hunique⟩ := bind_eq_ok.mp hlists
  have hknows {list : FieldList} {names : List String}
      (hnames : checkNames d list names parent.toList = .ok ()) : ∀ n ∈ names, ds.Knows d n := by
    intro n hn
    rcases checkNames_ok hnames n hn with hown | ⟨q, hq, hfield⟩
    · exact .inl hown
    · rcases checkExtension_ok hextension with
        ⟨_, rfl, _⟩ | ⟨ext, q', _, hext, hparent, _, _, _, _, rfl, _⟩
      · exact absurd hq List.not_mem_nil
      · obtain rfl := List.mem_singleton.mp hq
        exact .inr ⟨ext, q, hext, hparent, hfield⟩
  refine ⟨?_, fun group hgroup n hn => ?_⟩
  · simp only [List.forall_mem_cons, List.not_mem_nil, false_implies, implies_true, and_true]
    exact ⟨hknows hget, hknows hlist, hknows hdelete⟩
  · simpa using checkNames_ok ((forEach_ok_iff _ _).mp hunique group hgroup) n hn

/-- A reference leads to a stored column of a resource with a table of its own; a list of
    keys is stored. -/
theorem check_reference (h : ds.check = .ok ()) (hd : d ∈ ds) {e : FieldDecl} (he : e ∈ d.fields)
    {table column : String} (htarget : e.target? = some (table, column)) :
    (∃ target, ds.byTable? table = some target ∧
        ∃ c ∈ target.fields, c.name = column ∧ c.sql.isSome = true) ∧
      (e.many = true → e.sql.isSome = true) := by
  have hfield := check_field h hd he
  have hreference : e.references.isSome = true := by
    obtain ⟨reference, hsome, _⟩ := Option.bind_eq_some_iff.mp htarget
    exact Option.isSome_of_mem hsome
  unfold checkField at hfield
  obtain ⟨_, _, hfield⟩ := bind_eq_ok.mp hfield
  rw [if_pos hreference, htarget] at hfield
  dsimp only at hfield
  cases hfound : ds.byTable? table with
  | none =>
    rw [hfound] at hfield
    contradiction
  | some target =>
    rw [hfound] at hfield
    obtain ⟨_, hcolumn, hmany⟩ := bind_eq_ok.mp hfield
    have hany := ensure_ok hcolumn
    rw [Option.any_eq_true] at hany
    obtain ⟨c, hc, hstored⟩ := hany
    refine ⟨⟨target, rfl, c, List.mem_of_find?_eq_some hc, ResourceDecl.field?_name hc, hstored⟩,
      fun hlist => ?_⟩
    have hjsonb := ensure_ok hmany
    rw [hlist, Bool.not_true, Bool.false_or, Option.any_eq_true] at hjsonb
    obtain ⟨sql, hsql, _⟩ := hjsonb
    exact Option.isSome_of_mem hsql

theorem byTable?_some {table : String} {target : ResourceDecl}
    (h : ds.byTable? table = some target) :
    target ∈ ds ∧ target.isKid = false ∧ target.tableName = table := by
  have howns := List.find?_some h
  simp only [Bool.and_eq_true, Bool.not_eq_true', decide_eq_true_eq] at howns
  exact ⟨List.mem_of_find?_eq_some h, howns.1, howns.2⟩

end Declarations

/-- A stored field has a column of its name. -/
theorem ColumnDef.ofDecl?_stored {e : FieldDecl} (h : e.sql.isSome = true) :
    ∃ c, ColumnDef.ofDecl? e = some c ∧ c.name = e.name := by
  obtain ⟨sql, hsql⟩ := Option.isSome_iff_exists.mp h
  unfold ColumnDef.ofDecl?
  rw [hsql]
  exact ⟨_, rfl, rfl⟩

namespace TableDef

variable {ds : Declarations} {d : ResourceDecl} {ts : List TableDef}

/-- A resource with a usable key has exactly one field that is the primary key, and it is
    stored. -/
theorem checkKey_one (h : checkKey d = .ok ()) :
    ∃ key, d.fields.filter (·.primaryKey) = [key] ∧ key.sql.isSome = true := by
  unfold checkKey at h
  split at h
  · contradiction
  · rename_i key hkeys
    split_ifs at h with hstored
    exact ⟨key, hkeys, hstored⟩
  · contradiction

theorem primaryKey?_of_one {key : FieldDecl} (h : d.fields.filter (·.primaryKey) = [key]) :
    d.primaryKey? = some key := by
  unfold ResourceDecl.primaryKey?
  rw [← List.head?_filter, h]
  rfl

/-- The primary key of a resource with a table is stored. -/
theorem checkKey_ok (h : checkKey d = .ok ()) {pk : FieldDecl} (hpk : d.primaryKey? = some pk) :
    pk.sql.isSome = true := by
  obtain ⟨key, hkeys, hstored⟩ := checkKey_one h
  obtain rfl := Option.some.inj ((primaryKey?_of_one hkeys).symm.trans hpk)
  exact hstored

/-- What the table of a resource is. -/
theorem ofDecl_ok {t : TableDef} (h : ofDecl d = .ok (some t)) :
    d.isKid = false ∧ checkKey d = .ok () ∧
      t = ⟨d.name, d.tableName, d.fields.filterMap ColumnDef.ofDecl?, d.info.uniqueTogether⟩ := by
  unfold ofDecl at h
  split_ifs at h with hkid
  · exact absurd (Except.ok.inj h) (by simp)
  cases hkey : checkKey d with
  | error e =>
    rw [hkey] at h
    contradiction
  | ok =>
    rw [hkey] at h
    exact ⟨by simpa using hkid, rfl, (Option.some.inj (Except.ok.inj h)).symm⟩

/-- The tables are those of the resources that are not kept inside others, in order. -/
theorem ofDecls_made (h : ofDecls ds = .ok ts) :
    List.Forall₂ (fun d t => ofDecl d = .ok (some t)) (ds.filter (!·.isKid)) ts := by
  induction ds generalizing ts with
  | nil =>
    rw [← Except.ok.inj h]
    exact .nil
  | cons d rest ih =>
    obtain ⟨table, htable, h⟩ := bind_eq_ok.mp h
    obtain ⟨others, hothers, h⟩ := bind_eq_ok.mp h
    rw [← Except.ok.inj h]
    cases hkid : d.isKid with
    | true =>
      rw [ofDecl_kid hkid] at htable
      rw [← Except.ok.inj htable, List.filter_cons_of_neg (by simp [hkid])]
      exact ih hothers
    | false =>
      rw [List.filter_cons_of_pos (by simp [hkid])]
      cases table with
      | none =>
        unfold ofDecl at htable
        rw [hkid] at htable
        cases hkey : checkKey d <;> simp [hkey] at htable
      | some t => exact .cons htable (ih hothers)

/-- The columns of the primary key are those of the fields that are the primary key. -/
theorem filter_columns (fields : List FieldDecl) :
    (fields.filterMap ColumnDef.ofDecl?).filter (·.primaryKey) =
      (fields.filter (·.primaryKey)).filterMap ColumnDef.ofDecl? := by
  rw [List.filter_filterMap, List.filterMap_filter]
  refine List.filterMap_congr fun e _ => ?_
  unfold ColumnDef.ofDecl?
  cases e.sql with
  | none => simp
  | some sql => cases e.primaryKey <;> simp [Option.filter]

/-- The table of a resource has its stored fields as columns, and its key is one. -/
theorem mem_ofDecls (h : ofDecls ds = .ok ts) (hd : d ∈ ds) (hplain : d.isKid = false) :
    checkKey d = .ok () ∧ ∃ t ∈ ts, t.name = d.tableName ∧
      ∀ e ∈ d.fields, e.sql.isSome = true → ∃ c ∈ t.columns, c.name = e.name := by
  have howns : d ∈ ds.filter (!·.isKid) := List.mem_filter.mpr ⟨hd, by simpa using hplain⟩
  obtain ⟨t, ht, hmade⟩ := partner_of_mem (ofDecls_made h).flip howns
  obtain ⟨_, hkey, rfl⟩ := ofDecl_ok hmade
  refine ⟨hkey, _, ht, rfl, fun e he hstored => ?_⟩
  obtain ⟨c, hc, hname⟩ := ColumnDef.ofDecl?_stored hstored
  exact ⟨c, List.mem_filterMap.mpr ⟨e, he, hc⟩, hname⟩

end TableDef

end RowServe
