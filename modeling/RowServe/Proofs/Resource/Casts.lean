import RowServe.Proofs.Declaration.Casts
import RowServe.Proofs.Resource.Inserts
import RowServe.Proofs.Resource.Lookups
import RowServe.Proofs.Resource.Own

/-!
# Casts of bound scalars

Every scalar that a statement binds for a stored field is cast by the declared type of this field:
in the conditions of a filter, on the resource itself or on a linked row, in the assignments of an
update and in the values of an insert. Whether the cast keeps the values of the column is decided by
the declared type alone.

Results:

* `scalar_cast`: the cast of a bound scalar is that of the declared type.
* `cast_keeps_iff`: exactly the casts of wide types keep every value.
* `cut_code`: an insert that cuts a code of three characters.
-/

namespace RowServe

open RowServe.Filter (bindAll columnParam linkedParam mem_entriesOf mem_useOf)

/-- A value of the origin belongs to a stored field that is declared with the type. -/
inductive Declarations.Stores (ds : Declarations) (d : ResourceDecl) : Origin → SqlType → Prop where
  | filter {e : FieldDecl} {sql : SqlType} (he : e ∈ ds.storedFields d) (hsql : e.sql = some sql) :
      Stores ds d (.filter e.name) sql
  | payload {e : FieldDecl} {sql : SqlType} (he : e ∈ ds.storedFields d) (hsql : e.sql = some sql) :
      Stores ds d (.payload e.name) sql
  /-- A column of the row that a foreign key refers to. -/
  | linked {n table column : String} {link e : FieldDecl} {target : ResourceDecl} {sql : SqlType}
      (hlink : (ds.storedFields d).find? (·.name = n) = some link)
      (htarget : link.target? = some (table, column)) (hfound : ds.byTable? table = some target)
      (he : e ∈ target.fields) (hsql : e.sql = some sql) : Stores ds d (.linked n e.name) sql

/-- A statement of the resource has the placeholder for the value. -/
inductive Resource.Places (r : Resource) : Use → Sql.Placeholder → Prop where
  | call {call : Call} {u : Use} (hu : u ∈ call.uses r) :
      Places r u (u.place (bindAll [] (call.uses r)))
  | insert {payload : Object} {u : Use}
      (hu : u ∈ Change.insertionUses r.toTableView r.autoincrement payload) :
      Places r u
        (u.place (bindAll [] (Change.insertionUses r.toTableView r.autoincrement payload)))

/-- What a value is cast to is what its origin says: the cast of the type of a stored field, and
    nothing if there is no such field. -/
def Declarations.CastBy (ds : Declarations) (d : ResourceDecl) (origin : Origin)
    (cast : Option String) : Prop :=
  (cast = none ∧ ∀ sql, ¬ ds.Stores d origin sql) ∨
    ∃ sql, ds.Stores d origin sql ∧ cast = some sql.cast

/-! ## Stored fields -/

theorem Keyed.find?_inserted {β : Type u} {k : String} (entries : List (String × β))
    (m : Keyed β) :
    (∀ v, Keyed.find? k (entries.foldl (fun m e => Keyed.insert e.1 e.2 m) m) = some v →
      (k, v) ∈ entries ∨ m.find? k = some v) ∧
    (Keyed.find? k (entries.foldl (fun m e => Keyed.insert e.1 e.2 m) m) = none →
      k ∉ entries.map (·.1) ∧ m.find? k = none) := by
  induction entries generalizing m with
  | nil => exact ⟨fun v h => .inr h, fun h => ⟨List.not_mem_nil, h⟩⟩
  | cons e entries ih =>
    obtain ⟨hsome, hnone⟩ := ih (Keyed.insert e.1 e.2 m)
    rw [List.foldl_cons]
    constructor
    · intro v h
      rcases hsome v h with hmem | hput
      · exact .inl (List.mem_cons_of_mem e hmem)
      · rw [Keyed.find?_insert] at hput
        split_ifs at hput with hkey
        · obtain rfl := Option.some.inj hput
          exact .inl (hkey ▸ List.mem_cons_self)
        · exact .inr hput
    · intro h
      obtain ⟨hrest, hput⟩ := hnone h
      rw [Keyed.find?_insert] at hput
      split_ifs at hput with hkey
      rw [List.map_cons, List.mem_cons, not_or]
      exact ⟨⟨hkey, hrest⟩, hput⟩

/-- The cast of a column of a linked row is that of its declared type. -/
theorem Compile.linked_cast {fields : List FieldDecl} (key : String) {casts : Keyed String}
    (hcasts : casts = Keyed.ofList (fields.filterMap fun f =>
      f.sql.map fun sql => (f.name, sql.cast))) :
    (casts.find? key = none ∧ ∀ e ∈ fields, e.name = key → e.sql = none) ∨
      ∃ e ∈ fields, e.name = key ∧ ∃ sql, e.sql = some sql ∧ casts.find? key = some sql.cast := by
  obtain ⟨hsome, hnone⟩ := Keyed.find?_inserted (k := key)
    (fields.filterMap fun f => f.sql.map fun sql => (f.name, sql.cast)) []
  rw [hcasts]
  cases hfind : Keyed.find? key (Keyed.ofList (fields.filterMap fun f =>
      f.sql.map fun sql => (f.name, sql.cast))) with
  | none =>
    refine .inl ⟨rfl, fun e he hname => ?_⟩
    by_contra hsql
    obtain ⟨sql, hsql⟩ := Option.ne_none_iff_exists'.mp hsql
    refine (hnone hfind).1 (List.mem_map.mpr ⟨(key, sql.cast), ?_, rfl⟩)
    exact List.mem_filterMap.mpr ⟨e, he, by rw [hsql, ← hname]; rfl⟩
  | some t =>
    right
    obtain ⟨e, he, hentry⟩ := List.mem_filterMap.mp
      ((hsome t hfind).resolve_right fun h => by contradiction)
    obtain ⟨sql, hsql, hpair⟩ := Option.map_eq_some_iff.mp hentry
    obtain ⟨hname, hcast⟩ := Prod.mk.inj hpair
    exact ⟨e, he, hname, sql, hsql, congrArg some hcast.symm⟩

namespace Compile

variable {ds : Declarations} {d : ResourceDecl} {r : Resource}

/-- A column is cast by its declared type. -/
theorem column_cast (hr : resource ds d = .ok r) {f : Field} (hf : f ∈ r.fields)
    (hcolumn : f.isColumn = true) :
    f.decl ∈ ds.storedFields d ∧ ∃ sql, f.decl.sql = some sql ∧ f.cast = some sql.cast := by
  have hstored : f.decl ∈ ds.storedFields d := by
    rw [← stored_decls hr]
    exact List.mem_map_of_mem (List.mem_filter.mpr ⟨hf, hcolumn⟩)
  refine ⟨hstored, ?_⟩
  obtain ⟨p, templates, _, _, rfl⟩ := resource_ok_iff.mp hr
  obtain ⟨storage, e, rfl, _⟩ := fieldsOf_made hf
  obtain ⟨sql, hsql⟩ := Option.isSome_iff_exists.mp (List.mem_filter.mp hstored).2
  refine ⟨sql, hsql, ?_⟩
  have hstorage : storage = .column := of_decide_eq_true hcolumn
  show (if storage = .column then e.sql.map SqlType.cast else none) = some sql.cast
  rw [if_pos hstorage, show e.sql = some sql from hsql]
  rfl

/-- A field inside a document has no cast, and shares its name with no stored field. -/
theorem extension_not_stored (hr : resource ds d = .ok r) {f : Field} (hf : f ∈ r.fields)
    {column : String} (hextension : f.storage = .extension column) :
    ∀ e ∈ ds.storedFields d, e.name ≠ f.name := by
  obtain ⟨p, templates, hp, _, rfl⟩ := resource_ok_iff.mp hr
  have hf : f ∈ fieldsOf ds d (p.owner d) := hf
  rw [hp.owner_eq] at hf
  unfold fieldsOf at hf
  rcases List.mem_append.mp hf with hf | hf
  · obtain ⟨e, _, rfl⟩ := List.mem_map.mp hf
    have hstorage : (if e.sql.isSome then Storage.column else .virtual) = .extension column :=
      hextension
    split_ifs at hstorage
  · split at hf
    · exact absurd hf List.not_mem_nil
    · obtain ⟨o, ho, rfl⟩ := List.mem_map.mp hf
      intro e he hname
      have hfresh := (List.mem_filter.mp ho).2
      have hfield : (ds.owner d).hasField o.name = true :=
        List.find?_isSome.mpr ⟨e, (List.mem_filter.mp he).1, decide_eq_true hname⟩
      simp [hfield] at hfresh

/-- The field of a join is the stored field of its name, and refers to the joined table. -/
theorem join_stored (hr : resource ds d = .ok r) {j : Join} (hj : j ∈ r.joins) :
    ∃ link target, (ds.storedFields d).find? (·.name = j.field) = some link ∧
      link.target? = some (j.table, j.column) ∧ ds.byTable? j.table = some target ∧
      j.casts = Keyed.ofList (target.fields.filterMap fun f =>
        f.sql.map fun sql => (f.name, sql.cast)) := by
  obtain ⟨f, target, hfind, hkind, hfound, _, _, _, hcasts⟩ := join_parts hr hj
  have hf := List.mem_of_find?_eq_some hfind
  have hcolumn := foreignKey_column hr hf (by rw [Field.isForeignKey, hkind])
  obtain ⟨p, templates, hp, _, rfl⟩ := id (resource_ok_iff.mp hr)
  refine ⟨f.decl, target, ?_, (fieldsOf_foreignKey hf hkind).2, hfound, hcasts⟩
  rw [← stored_decls hr, List.find?_map, List.find?_filter]
  refine Option.map_eq_some_iff.mpr ⟨f, ?_, rfl⟩
  -- the first field of the name is a column, so it is the first column of the name
  obtain ⟨hname, before, behind, hsplit, hbefore⟩ := List.find?_eq_some_iff_append.mp hfind
  refine List.find?_eq_some_iff_append.mpr ⟨?_, before, behind, hsplit, fun g hg => ?_⟩
  · have hsame : f.decl.name = j.field := of_decide_eq_true hname
    simp [hcolumn, hsame]
  · have hother : g.name ≠ j.field := by simpa using hbefore g hg
    simp [show g.decl.name ≠ j.field from hother]

end Compile

/-! ## Casts -/

namespace Filter

variable {ds : Declarations} {d : ResourceDecl} {r : Resource}

theorem column_castBy (hr : Compile.resource ds d = .ok r) {f : Field} (hf : f ∈ r.fields)
    (hcolumn : f.isColumn = true) {v : Json} {s : Option String}
    (hscalar : (columnParam f v).1 = .text s) :
    ∃ sql, f.decl ∈ ds.storedFields d ∧ f.decl.sql = some sql ∧
      (columnParam f v).2 = some sql.cast := by
  obtain ⟨hstored, sql, hsql, hcast⟩ := Compile.column_cast hr hf hcolumn
  refine ⟨sql, hstored, hsql, ?_⟩
  rw [← hcast]
  unfold columnParam at hscalar ⊢
  cases v with
  | arr items => contradiction
  | obj entries => contradiction
  | null | bool | num | str =>
    dsimp only at hscalar ⊢
    split_ifs at hscalar ⊢
    rfl

theorem linked_castBy (hr : Compile.resource ds d = .ok r) {j : Join} (hj : j ∈ r.joins)
    {key : String} {v : Json} {s : Option String}
    (hscalar : (linkedParam (j.casts.find? key) v).1 = .text s) :
    ds.CastBy d (.linked j.field key) (linkedParam (j.casts.find? key) v).2 := by
  have hcast : (linkedParam (j.casts.find? key) v).2 = j.casts.find? key := by
    cases v <;> first | rfl | contradiction
  obtain ⟨link, target, hlink, htarget, hfound, hcasts⟩ := Compile.join_stored hr hj
  rw [hcast]
  rcases Compile.linked_cast key hcasts with ⟨hnone, hsql⟩ | ⟨e, he, rfl, sql, hsql, hsome⟩
  · refine .inl ⟨hnone, fun sql hstores => ?_⟩
    cases hstores with
    | linked hlink' htarget' hfound' he' hsql' =>
      obtain rfl := Option.some.inj (hlink.symm.trans hlink')
      obtain ⟨rfl, rfl⟩ := Prod.mk.inj (Option.some.inj (htarget.symm.trans htarget'))
      obtain rfl := Option.some.inj (hfound.symm.trans hfound')
      rw [hsql _ he' rfl] at hsql'
      contradiction
  · exact .inr ⟨sql, .linked hlink htarget hfound he hsql, hsome⟩

theorem extension_of_document {view : TableView} {f : Field} {v : Json} {x : Sql.Operand}
    (h : reading view f v = .document x) : ∃ column, f.storage = .extension column := by
  unfold reading at h
  cases hx : view.operand? f with
  | none =>
    rw [hx] at h
    contradiction
  | some y =>
    rw [hx] at h
    dsimp only at h
    split at h
    · exact ⟨_, ‹_›⟩
    · contradiction
    · contradiction
    · cases hj : view.join? f.name with
      | none =>
        rw [hj] at h
        contradiction
      | some j =>
        rw [hj] at h
        contradiction
    · contradiction

theorem column_of_flat {view : TableView} {f : Field} {v : Json} {x : Sql.Operand}
    (h : reading view f v = .flat x) : f.isColumn = true := by
  unfold reading TableView.operand? at h
  unfold Field.isColumn
  cases hstorage : f.storage with
  | column => rfl
  | virtual =>
    rw [hstorage] at h
    contradiction
  | extension column =>
    rw [hstorage] at h
    contradiction

/-- The scalars of a filter are cast by their declared types. -/
theorem filter_castBy (hr : Compile.resource ds d = .ok r) {filter : Object} {u : Use}
    (hu : u ∈ filterUses r.toTableView filter) {s : Option String} (hscalar : u.value = .text s) :
    ds.CastBy d u.origin u.cast := by
  obtain ⟨⟨f, v⟩, he, hu⟩ := List.mem_flatMap.mp hu
  have hf : f ∈ r.fields := (mem_entriesOf.mp he).1
  unfold entryUses at hu
  cases hread : reading r.toTableView f v with
  | none =>
    rw [hread] at hu
    exact absurd hu List.not_mem_nil
  | document x =>
    rw [hread] at hu
    obtain rfl := mem_useOf hu
    obtain ⟨column, hextension⟩ := extension_of_document hread
    refine .inl ⟨?_, fun sql hstores => ?_⟩
    · unfold documentParam at hscalar ⊢
      dsimp only at hscalar ⊢
      split_ifs at hscalar ⊢
      rfl
    · generalize horigin : Origin.filter f.name = origin at hstores
      cases hstores with
      | filter he _ =>
        exact Compile.extension_not_stored hr hf hextension _ he (Origin.filter.inj horigin).symm
      | payload _ _ => contradiction
      | linked _ _ _ _ _ => contradiction
  | contains x part =>
    rw [hread] at hu
    rw [List.mem_singleton.mp hu] at hscalar
    contradiction
  | linked x j entries =>
    rw [hread] at hu
    obtain ⟨e, _, hu⟩ := List.mem_flatMap.mp hu
    obtain rfl := mem_useOf hu
    exact linked_castBy hr (Compile.join?_some (object_of_reading hread).2).1 hscalar
  | flat x =>
    rw [hread] at hu
    obtain rfl := mem_useOf hu
    obtain ⟨sql, hstored, hsql, hcast⟩ := column_castBy hr hf (column_of_flat hread) hscalar
    exact .inr ⟨sql, .filter hstored hsql, hcast⟩

end Filter

namespace Change

variable {ds : Declarations} {d : ResourceDecl} {r : Resource} {payload : Object} {u : Use}
  {s : Option String}

/-- The scalars of an update are cast by their declared types. -/
theorem assignment_castBy (hr : Compile.resource ds d = .ok r) {op : Operation}
    {kidColumn : Option String} (hu : u ∈ assignmentUses r.toTableView payload op kidColumn)
    (hscalar : u.value = .text s) : ds.CastBy d u.origin u.cast := by
  obtain ⟨⟨f, v⟩, he, hu⟩ := List.mem_flatMap.mp hu
  obtain rfl := mem_useOf hu
  obtain ⟨hf, hcolumn⟩ := List.mem_filter.mp (mem_changed he).1
  have hparam : assignedParam op kidColumn f v = columnParam f v := by
    unfold assignedParam at hscalar ⊢
    dsimp only at hscalar
    split_ifs at hscalar ⊢
    rfl
  dsimp only at hscalar ⊢
  rw [hparam] at hscalar ⊢
  obtain ⟨sql, hstored, hsql, hcast⟩ := Filter.column_castBy hr hf hcolumn hscalar
  exact .inr ⟨sql, .payload hstored hsql, hcast⟩

/-- The scalars of an insert are cast by their declared types. -/
theorem insertion_castBy (hr : Compile.resource ds d = .ok r)
    (hu : u ∈ insertionUses r.toTableView r.autoincrement payload) (hscalar : u.value = .text s) :
    ds.CastBy d u.origin u.cast := by
  obtain ⟨⟨f, v⟩, he, hu⟩ := List.mem_flatMap.mp hu
  obtain rfl := mem_useOf hu
  obtain ⟨hf, hcolumn⟩ := List.mem_filter.mp (mem_changed he).1
  obtain ⟨sql, hstored, hsql, hcast⟩ := Filter.column_castBy hr hf hcolumn hscalar
  exact .inr ⟨sql, .payload hstored hsql, hcast⟩

end Change

namespace Resource

variable {ds : Declarations} {d : ResourceDecl} {g : Registry} {r : Resource} {u : Use}
  {p : Sql.Placeholder} {s : Option String}

/-- The cast behind the placeholder of a scalar is that of the declared type of its field. -/
theorem scalar_cast (hr : Compile.resource ds d = .ok r) (hp : r.Places u p)
    (hscalar : u.value = .text s) : ds.CastBy d u.origin p.cast := by
  cases hp with
  | insert hu => exact Change.insertion_castBy hr hu hscalar
  | @call call _ hu =>
    show ds.CastBy d u.origin u.cast
    cases call with
    | get filter _ => exact Filter.filter_castBy hr hu hscalar
    | list filter _ _ => exact Filter.filter_castBy hr hu hscalar
    | delete _ filter => exact Filter.filter_castBy hr hu hscalar
    | update op filter payload =>
      rcases List.mem_append.mp hu with hu | hu
      · exact Filter.filter_castBy hr hu hscalar
      · exact Change.assignment_castBy hr hu hscalar

/-- Every scalar that a statement binds is cast by the declared type of the stored field that it
    belongs to, or by nothing if it belongs to none. The cast keeps every value of the column
    exactly if the declared type is wide: `char(3)` is not, nor is `bit(8)`,
    `timestamp(3) with time zone` or a name in quotes with capitals. -/
theorem cast_keeps_iff (hg : ds.resolve = .ok g) (hr : r ∈ g.resources) (hp : r.Places u p)
    (hscalar : u.value = .text s) :
    ∃ d ∈ ds, Compile.resource ds d = .ok r ∧
      ((p.cast = none ∧ ∀ sql, ¬ ds.Stores d u.origin sql) ∨
        ∃ sql, ds.Stores d u.origin sql ∧ p.cast = some sql.cast ∧
          ∀ τ, TypePhrase.read? sql.text = some τ → (sql.KeptBy sql.cast ↔ τ.Wide)) := by
  obtain ⟨d, hd, hcompiled⟩ := Compile.mem_resolved hg hr
  refine ⟨d, hd, hcompiled, (scalar_cast hcompiled hp hscalar).imp_right ?_⟩
  rintro ⟨sql, hstores, hcast⟩
  exact ⟨sql, hstores, hcast, fun τ hτ => SqlType.keptBy_cast_iff hτ⟩

/-- Products with a name of up to 64 characters and a code of three. -/
def coded : ResourceDecl :=
  .plain "Product" "product" [.key "id", .plain "name" .string (some (.simple "varchar(64)")),
    .plain "code" .string (some (.simple "CHAR(3)"))]

/-- A product with all of it. -/
def codedProduct : Object := [("code", .str "abc"), ("id", .ofInt 1), ("name", .str "Ann")]

/-- What an insert of the product binds. -/
def codedUses (r : Resource) : List Use :=
  Change.insertionUses r.toTableView r.autoincrement codedProduct

theorem declared_of_stores {n : String} {sql : SqlType} (h : ds.Stores d (.payload n) sql) :
    ∃ e ∈ ds.storedFields d, e.name = n ∧ e.sql = some sql := by
  cases h with
  | payload he hsql => exact ⟨_, he, rfl, hsql⟩

/-- The insert binds a text of the origin at its place, with the placeholder as it is written. -/
def insertsCoded (r : Resource) (i : Nat) (origin : Origin) (text placeholder : String) : Bool :=
  (codedUses r)[i]?.any fun (u : Use) => decide (u.origin = origin ∧ u.value = .text (some text) ∧
    (u.place (bindAll [] (codedUses r))).render = placeholder)

theorem places_of_insertsCoded {r : Resource} {i : Nat} {origin : Origin}
    {text placeholder : String} (h : insertsCoded r i origin text placeholder = true) :
    ∃ u p, r.Places u p ∧ u.origin = origin ∧ u.value = .text (some text) ∧
      p.render = placeholder := by
  obtain ⟨u, hu, hfacts⟩ := (Option.any_eq_true _ _).mp h
  exact ⟨u, _, .insert (List.mem_of_getElem? hu), of_decide_eq_true hfacts⟩

/-- The name is cast without its modifier, and is kept. -/
theorem cast_keeps_name :
    ∃ g, Declarations.resolve [coded] = .ok g ∧ ∃ r ∈ g.resources, ∃ u p, r.Places u p ∧
      u.origin = .payload "name" ∧ u.value = .text (some "Ann") ∧ p.render = "$2::varchar" ∧
      (SqlType.simple "varchar(64)").KeptBy "varchar" := by
  obtain ⟨g, hg, r, hr, hP⟩ := Compile.exists_resolved [coded]
    (fun r => insertsCoded r 1 (.payload "name") "Ann" "$2::varchar")
    (by decide +kernel) (by decide +kernel)
  obtain ⟨u, p, hp, horigin, hvalue, htext⟩ := places_of_insertsCoded hP
  refine ⟨g, hg, r, hr, u, p, hp, horigin, hvalue, htext, ?_⟩
  obtain ⟨d, hd, _, hkept⟩ := cast_keeps_iff hg hr hp hvalue
  obtain rfl := List.mem_singleton.mp hd
  rw [horigin] at hkept
  have hname : FieldDecl.plain "name" .string (some (.simple "varchar(64)")) ∈
      Declarations.storedFields [coded] coded := by
    decide +kernel
  rcases hkept with ⟨_, hnone⟩ | ⟨sql, hstores, _, hiff⟩
  · exact absurd (.payload hname rfl) (hnone (.simple "varchar(64)"))
  · obtain ⟨e, he, hnamed, hdeclared⟩ := declared_of_stores hstores
    have hfield : ∀ e ∈ Declarations.storedFields [coded] coded, e.name = "name" →
        e.sql = some (.simple "varchar(64)") := by
      decide +kernel
    obtain rfl : .simple "varchar(64)" = sql :=
      Option.some.inj ((hfield e he hnamed).symm.trans hdeclared)
    have hread : TypePhrase.read? "varchar(64)" =
        some ⟨[.of "varchar"], some ['6', '4'], []⟩ := by
      decide +kernel
    have hcast : SqlType.cast (.simple "varchar(64)") = "varchar" := by decide +kernel
    rw [← hcast]
    exact (hiff _ hread).mpr (by decide +kernel)

/-- The code is cast to one character: the other two are cut off. -/
theorem cut_code :
    ∃ g, Declarations.resolve [coded] = .ok g ∧ ∃ r ∈ g.resources, ∃ u p, r.Places u p ∧
      u.origin = .payload "code" ∧ u.value = .text (some "abc") ∧ p.render = "$3::char" ∧
      Declarations.Stores [coded] coded (.payload "code") (.simple "CHAR(3)") ∧
      ¬ (SqlType.simple "CHAR(3)").KeptBy "char" := by
  obtain ⟨g, hg, r, hr, hP⟩ := Compile.exists_resolved [coded]
    (fun r => insertsCoded r 2 (.payload "code") "abc" "$3::char")
    (by decide +kernel) (by decide +kernel)
  obtain ⟨u, p, hp, horigin, hvalue, htext⟩ := places_of_insertsCoded hP
  have hcode : FieldDecl.plain "code" .string (some (.simple "CHAR(3)")) ∈
      Declarations.storedFields [coded] coded := by
    decide +kernel
  have hread : TypePhrase.read? "CHAR(3)" = some ⟨[.of "CHAR"], some ['3'], []⟩ := by
    decide +kernel
  have hcast : SqlType.cast (.simple "CHAR(3)") = "char" := by decide +kernel
  refine ⟨g, hg, r, hr, u, p, hp, horigin, hvalue, htext, .payload hcode rfl, ?_⟩
  rw [← hcast, SqlType.keptBy_cast_iff (t := .simple "CHAR(3)") hread]
  decide +kernel

end Resource

end RowServe
