import RowServe.Proofs.Resource.Identified

/-!
# Checked declarations compile

What the compiler looks up was found while the declarations were checked: the parent of a
nested extension, the key of a table, the resource that a foreign key leads to, the pattern of
a field. So there is nothing that compiling can fail for but the sources of the templates.

Results:

* `exists_parts`: all parts of a checked resource can be computed.
* `fails_resolve`: resolving checked declarations fails with errors of templates only.
-/

namespace RowServe.Compile

variable {ds : Declarations} {d : ResourceDecl}

/-! ## Fields and contracts -/

/-- The pattern of a checked field can be read. -/
theorem exists_fieldOf (hcheck : ds.check = .ok ()) (hd : d ∈ ds) {e : FieldDecl}
    (he : e ∈ d.fields) : ∃ own, Contract.fieldOf e = .ok own := by
  have hfield := Declarations.check_field hcheck hd he
  unfold Declarations.checkField at hfield
  obtain ⟨_, hpattern, _⟩ := bind_eq_ok.mp hfield
  have hreads := Declarations.ensure_ok hpattern
  refine exists_map ?_
  unfold FieldSpec.ofDecl
  cases hrule : e.rule.pattern with
  | none => exact ⟨_, rfl⟩
  | some source =>
    rw [hrule, Option.all_some] at hreads
    obtain ⟨pattern, hpattern⟩ := Option.isSome_iff_exists.mp hreads
    dsimp only
    rw [hpattern]
    exact ⟨_, rfl⟩

theorem exists_lookupContract (hcheck : ds.check = .ok ()) (hd : d ∈ ds) (names : List String) :
    ∃ c, lookupContract d names = .ok c := by
  refine exists_map (exists_mapM fun e he => ?_)
  obtain ⟨n, _, hfind⟩ := List.mem_filterMap.mp he
  exact exists_fieldOf hcheck hd (List.mem_of_find?_eq_some hfind)

theorem exists_childContract (hcheck : ds.check = .ok ()) (hd : d ∈ ds) (parent : ResourceDecl) :
    ∃ c, childContract d parent = .ok c :=
  exists_map (exists_mapM fun _ he => exists_fieldOf hcheck hd (List.mem_of_mem_filter he))

section Contracts

variable {fields : List Field} (hfields : ∀ f ∈ fields, ∃ own, Contract.fieldOf f.decl = .ok own)
  (linked : List Linked) (nested : List (String × Contract))
include hfields

theorem exists_writeContract (complete : Bool) :
    ∃ c, writeContract complete nested fields = .ok c :=
  exists_map (exists_mapM fun f hf => exists_map (hfields f hf))

theorem exists_readContract (list : Bool) (names : List String) :
    ∃ c, readContract list linked nested fields names = .ok c := by
  refine exists_map (exists_mapM fun f hf => exists_map ?_)
  obtain ⟨n, _, hfind⟩ := List.mem_filterMap.mp hf
  exact hfields f (List.mem_of_find?_eq_some hfind)

/-- The contracts of a resource can be made if its fields can be read. -/
theorem exists_contractsOf (hcheck : ds.check = .ok ()) (hd : d ∈ ds)
    (parent : Option ResourceDecl) (pk : FieldDecl) (pkFromSession : Bool) (lists : Lists) :
    ∃ cs, contractsOf d parent pk pkFromSession lists fields linked nested = .ok cs := by
  have hwritten (p q : Field → Bool) :
      ∀ f ∈ (fields.filter p).filter q, ∃ own, Contract.fieldOf f.decl = .ok own :=
    fun f hf => hfields f (List.mem_of_mem_filter (List.mem_of_mem_filter hf))
  have hread := exists_readContract hfields linked nested
  unfold contractsOf
  refine exists_bind (exists_writeContract (hwritten _ _) nested true) fun post _ => ?_
  refine exists_bind (hread false _) fun get _ => ?_
  refine exists_bind (hread true _) fun list _ => ?_
  refine exists_bind (hread false _) fun delete _ => ?_
  refine exists_bind (exists_writeContract (hwritten _ _) nested false) fun update _ => ?_
  cases parent with
  | none => exact ⟨_, rfl⟩
  | some q => exact exists_bind (exists_map (exists_childContract hcheck hd q)) fun _ _ => ⟨_, rfl⟩

end Contracts

/-! ## Joins and nested extensions -/

theorem exists_linkedOf (hcheck : ds.check = .ok ()) {table : String} {target : ResourceDecl}
    (htarget : ds.byTable? table = some target) (ownTable name column : String) :
    ∃ l, linkedOf ds ownTable name table column = .ok l := by
  have hmem := (Declarations.byTable?_some htarget).1
  unfold linkedOf
  rw [htarget]
  exact exists_bind (exists_lookupContract hcheck hmem _) fun _ _ =>
    exists_bind (exists_lookupContract hcheck hmem _) fun _ _ => ⟨_, rfl⟩

/-- The joins can be made if every foreign key leads to a resource. -/
theorem exists_linkedAll (hcheck : ds.check = .ok ()) {fields : List Field}
    (hfields : ∀ f ∈ fields, ∀ table column, f.kind = .foreignKey table column →
      ∃ target, ds.byTable? table = some target) (ownTable : String) (names : List String) :
    ∃ linked, linkedAll ds ownTable fields names = .ok linked := by
  induction names with
  | nil => exact ⟨[], rfl⟩
  | cons name names ih =>
    unfold linkedAll
    split
    · rename_i table column hkind
      obtain ⟨f, hfind, hf⟩ := Option.map_eq_some_iff.mp hkind
      obtain ⟨target, htarget⟩ := hfields f (List.mem_of_find?_eq_some hfind) table column hf
      exact exists_bind (exists_linkedOf hcheck htarget ownTable name column) fun _ _ =>
        exists_bind ih fun _ _ => ⟨_, rfl⟩
    · exact ih

theorem exists_nestedContracts (hcheck : ds.check = .ok ()) (owner : ResourceDecl)
    (fields : List Field) : ∃ nested, nestedContracts ds owner fields = .ok nested := by
  induction fields with
  | nil => exact ⟨[], rfl⟩
  | cons f fields ih =>
    unfold nestedContracts
    split
    · split
      · rename_i kid hkid
        have hmem := List.mem_of_find?_eq_some hkid
        exact exists_bind (exists_childContract hcheck hmem owner) fun _ _ =>
          exists_bind ih fun _ _ => ⟨_, rfl⟩
      · exact ih
    · exact ih

/-! ## Resources -/

/-- The parent of a checked resource is found. -/
theorem exists_parentOf (hcheck : ds.check = .ok ()) (hd : d ∈ ds) :
    ∃ parent, parentOf ds d = .ok parent := by
  unfold parentOf
  cases hext : d.info.extendsOn with
  | none => exact ⟨none, rfl⟩
  | some ext =>
    obtain ⟨parent, hparent, _⟩ := Declarations.check_extension hcheck hd hext
    dsimp only
    rw [hparent]
    exact ⟨some parent, rfl⟩

/-- The resource that owns the table has a key. -/
theorem exists_keyOf (hcheck : ds.check = .ok ()) {ts : List TableDef}
    (htables : TableDef.ofDecls ds = .ok ts) (hd : d ∈ ds) :
    ∃ pk, keyOf d (ds.owner d) = .ok pk := by
  obtain ⟨howner, hplain⟩ := owner_plain hcheck hd
  obtain ⟨hkey, _⟩ := TableDef.mem_ofDecls htables howner hplain
  obtain ⟨key, hkeys, _⟩ := TableDef.checkKey_one hkey
  exact ⟨key, keyOf_eq_ok.mpr (TableDef.primaryKey?_of_one hkeys)⟩

/-- A foreign key leads to a resource with a table of its own. -/
theorem exists_target (hcheck : ds.check = .ok ()) (hd : d ∈ ds) {f : Field}
    (hf : f ∈ fieldsOf ds d (ds.owner d)) {table column : String}
    (hkind : f.kind = .foreignKey table column) : ∃ target, ds.byTable? table = some target := by
  obtain ⟨howner, _⟩ := owner_plain hcheck hd
  obtain ⟨hcolumn, htarget⟩ := fieldsOf_foreignKey hf hkind
  obtain ⟨hdecl, _⟩ := (fieldsOf_stored hf).1 hcolumn
  obtain ⟨⟨target, hfound, _⟩, _⟩ := Declarations.check_reference hcheck howner hdecl htarget
  exact ⟨target, hfound⟩

/-- All parts of a checked resource can be computed. -/
theorem exists_parts (hcheck : ds.check = .ok ()) {ts : List TableDef}
    (htables : TableDef.ofDecls ds = .ok ts) (hd : d ∈ ds) : ∃ p, parts ds d = .ok p := by
  have howner := (owner_plain hcheck hd).1
  have hfields : ∀ f ∈ fieldsOf ds d (ds.owner d), ∃ own, Contract.fieldOf f.decl = .ok own := by
    intro f hf
    obtain ⟨storage, e, rfl, he | he⟩ := fieldsOf_made hf
    · exact exists_fieldOf hcheck howner he
    · exact exists_fieldOf hcheck hd he
  -- Only the parent has to be known: everything else is looked up in the owner of the table.
  unfold parts
  refine exists_bind (exists_parentOf hcheck hd) fun parent hparent => ?_
  rw [owner_of_parentOf hparent]
  exact exists_bind (exists_keyOf hcheck htables hd) fun pk _ =>
    exists_bind (exists_linkedAll hcheck (fun f hf _ _ => exists_target hcheck hd hf) _ _)
      fun linked _ => exists_bind (exists_nestedContracts hcheck _ _) fun nested _ =>
        exists_bind (exists_contractsOf hfields linked nested hcheck hd _ _ _ _) fun _ _ => ⟨_, rfl⟩

/-! ## Errors -/

/-- The error is that a source is no template. -/
def IsTemplateError (e : ConfigError) : Prop := ∃ t, e = .template t

theorem fails_ofSource (source : String) :
    FailsWith IsTemplateError (Statement.ofSource source) := by
  intro e h
  unfold Statement.ofSource at h
  split at h
  · contradiction
  · exact ⟨_, (Except.error.inj h).symm⟩

theorem fails_templates (view : TableView) (hidden : Option String)
    (dependents : List Dependent) :
    FailsWith IsTemplateError (Statement.templates view hidden dependents) := by
  unfold Statement.templates
  refine failsWith_bind (fails_ofSource _) fun _ => failsWith_bind (fails_ofSource _) fun _ => ?_
  refine failsWith_bind (fails_ofSource _) fun _ => failsWith_bind (fails_ofSource _) fun _ => ?_
  refine failsWith_bind (fails_ofSource _) fun _ => failsWith_bind (fails_ofSource _) fun _ => ?_
  exact failsWith_ok _

/-- Resolving checked declarations fails with errors of templates only. -/
theorem fails_resolve (hcheck : ds.check = .ok ()) {ts : List TableDef}
    (htables : TableDef.ofDecls ds = .ok ts) : FailsWith IsTemplateError ds.resolve := by
  unfold Declarations.resolve
  rw [resources_eq]
  refine failsWith_bind (failsWith_of_exists ⟨_, hcheck⟩) fun _ => ?_
  refine failsWith_bind (failsWith_of_exists ⟨_, htables⟩) fun _ => ?_
  refine failsWith_bind (failsWith_mapM fun d hd => ?_) fun _ => failsWith_ok _
  rw [resource_eq]
  refine failsWith_bind (failsWith_of_exists (exists_parts hcheck htables hd)) fun p => ?_
  exact failsWith_bind (fails_templates _ _ _) fun _ => failsWith_ok _

end RowServe.Compile
