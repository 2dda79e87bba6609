import RowServe.Proofs.Resource.Templates
import RowServe.Proofs.Results
import RowServe.Resource.Compile

/-!
# Parts of a compiled resource

What compiling a resource computes before its templates are read, and which equations hold
between the parts. Every fact about a compiled resource comes from these equations; none
of them has to go through the compiler again.

Results:

* `resource_ok_iff`: what a compiled resource is made of.
* `mem_resolved`: every resource of a registry is the compiled form of a declaration.
* `resolve_plain`: without braces in names, only the parts have to be computed.
* `resolve_reread`: with them, the templates are read segment by segment.
-/

namespace RowServe

/-- What is not kept inside another resource extends none. -/
theorem ResourceDecl.extends_none {d : ResourceDecl} (h : d.isKid = false) :
    d.info.extendsOn = none := Option.not_isSome_iff_eq_none.mp (Bool.eq_false_iff.mp h)

namespace Compile

open Sql.Template (Plain)

/-- What compiling a resource computes on the way. -/
structure Parts where
  parent : Option ResourceDecl
  pk : FieldDecl
  linked : List Linked
  nested : List (String × Contract)
  contracts : Contracts

namespace Parts

variable (ds : Declarations) (d : ResourceDecl) (p : Parts)

/-- The resource that owns the table. -/
def owner : ResourceDecl := p.parent.getD d

/-- The fields with their places. -/
def fields : List Field := fieldsOf ds d (p.owner d)

/-- The lists of fields. -/
def lists : Lists := listsOf d p.parent

/-- The column that is not shown. -/
def hidden : Option String := d.info.extendsOn.map (·.column)

/-- Is the key of a new row taken from the session? -/
def pkFromSession : Bool := d.info.pkFromSession || (p.owner d).info.pkFromSession

/-- What statements are built from. -/
def view : TableView := ⟨(p.owner d).tableName, p.pk.name, p.fields ds d, p.linked.map (·.join)⟩

/-- The columns of other tables that hold keys of the resource. -/
def dependents : List Dependent := dependentsOf ds (p.owner d).tableName p.pk.name

/-- The resource with its templates. -/
def resource (templates : Templates) : Resource :=
  { toTableView := p.view ds d
    name := d.name
    route := d.route
    autoincrement := p.pk.autoincrement
    childFields := if p.parent.isSome then (ownFields d (p.owner d)).map (·.name) else []
    extendsOn := d.info.extendsOn
    operations := Operation.all.filter fun op => !(p.lists d).excludedOps.contains op
    getBy := (p.lists d).getBy
    listBy := (p.lists d).listBy
    deleteBy := (p.lists d).deleteBy
    excludeFromUpdates := (p.lists d).excludeFromUpdates
    createViews := d.info.createViews
    permissions := d.info.permissions
    pkFromSession := p.pkFromSession d
    hookModes := d.info.hookModes
    dependents := p.dependents ds d
    contracts := p.contracts
    templates := templates }

/-- The equations between the parts. -/
structure Valid : Prop where
  parent : parentOf ds d = .ok p.parent
  pk : (p.owner d).primaryKey? = some p.pk
  linked : linkedAll ds (p.owner d).tableName (p.fields ds d)
    (union (p.lists d).getBy (p.lists d).listBy) = .ok p.linked
  nested : nestedContracts ds (p.owner d) (p.fields ds d) = .ok p.nested
  contracts : contractsOf d p.parent p.pk (p.pkFromSession d) (p.lists d) (p.fields ds d)
    p.linked p.nested = .ok p.contracts

end Parts

/-- The first field declared as primary key, which there has to be. -/
def keyOf (d owner : ResourceDecl) : Except ConfigError FieldDecl :=
  match owner.primaryKey? with
  | some pk => .ok pk
  | none => .error (.invalidPrimaryKey d.name .missing)

/-- The parts of a resource. -/
def parts (ds : Declarations) (d : ResourceDecl) : Except ConfigError Parts := do
  let parent ← parentOf ds d
  let owner := parent.getD d
  let pk ← keyOf d owner
  let fields := fieldsOf ds d owner
  let lists := listsOf d parent
  let linked ← linkedAll ds owner.tableName fields (union lists.getBy lists.listBy)
  let nested ← nestedContracts ds owner fields
  let contracts ← contractsOf d parent pk (d.info.pkFromSession || owner.info.pkFromSession) lists
    fields linked nested
  return ⟨parent, pk, linked, nested, contracts⟩

theorem keyOf_eq_ok {d owner : ResourceDecl} {pk : FieldDecl} :
    keyOf d owner = .ok pk ↔ owner.primaryKey? = some pk := by
  unfold keyOf
  cases owner.primaryKey? with
  | none => simp
  | some key => simp

theorem parentOf_plain {ds : Declarations} {d : ResourceDecl} (h : d.info.extendsOn = none) :
    parentOf ds d = .ok none := by
  unfold parentOf
  rw [h]

theorem parts_ok_iff {ds : Declarations} {d : ResourceDecl} {p : Parts} :
    parts ds d = .ok p ↔ p.Valid ds d := by
  unfold parts
  simp only [bind_eq_ok, keyOf_eq_ok]
  constructor
  · rintro ⟨parent, hparent, pk, hpk, linked, hlinked, nested, hnested, contracts, hcontracts, he⟩
    obtain rfl := Except.ok.inj he
    exact ⟨hparent, hpk, hlinked, hnested, hcontracts⟩
  · intro h
    exact ⟨p.parent, h.parent, p.pk, h.pk, p.linked, h.linked, p.nested, h.nested, p.contracts,
      h.contracts, rfl⟩

/-- A resource that extends none has no parent. -/
theorem Parts.Valid.parent_none {ds : Declarations} {d : ResourceDecl} {p : Parts}
    (h : p.Valid ds d) (hplain : d.info.extendsOn = none) : p.parent = none := by
  have hparent := h.parent
  rw [parentOf_plain hplain] at hparent
  exact (Except.ok.inj hparent).symm

/-- A resource that extends none owns its table. -/
theorem Parts.Valid.owner_self {ds : Declarations} {d : ResourceDecl} {p : Parts}
    (h : p.Valid ds d) (hplain : d.info.extendsOn = none) : p.owner d = d := by
  unfold Parts.owner
  rw [h.parent_none hplain]
  rfl

/-- Compiling is computing the parts and reading the templates. -/
theorem resource_eq (ds : Declarations) (d : ResourceDecl) :
    resource ds d = (do
      let p ← parts ds d
      let templates ← Statement.templates (p.view ds d) (Parts.hidden d) (p.dependents ds d)
      return p.resource ds d templates) := by
  unfold resource parts
  simp only [bind_assoc, pure_bind]
  refine bind_congr fun parent => ?_
  unfold keyOf
  cases (parent.getD d).primaryKey? with
  | none => rfl
  | some pk => rfl

theorem resource_ok_iff {ds : Declarations} {d : ResourceDecl} {r : Resource} :
    resource ds d = .ok r ↔
      ∃ (p : Parts) (templates : Templates), p.Valid ds d ∧
        Statement.templates (p.view ds d) (Parts.hidden d) (p.dependents ds d) = .ok templates ∧
        r = p.resource ds d templates := by
  rw [resource_eq]
  simp only [bind_eq_ok, parts_ok_iff]
  constructor
  · rintro ⟨p, hp, templates, ht, he⟩
    exact ⟨p, templates, hp, ht, (Except.ok.inj he).symm⟩
  · rintro ⟨p, templates, hp, ht, rfl⟩
    exact ⟨p, hp, templates, ht, rfl⟩

theorem resource_name {ds : Declarations} {d : ResourceDecl} {r : Resource}
    (h : resource ds d = .ok r) : r.name = d.name := by
  obtain ⟨p, templates, _, _, rfl⟩ := resource_ok_iff.mp h
  rfl

/-! ## Registries -/

theorem resources_eq (ds rs : Declarations) : resources ds rs = rs.mapM (resource ds) := by
  induction rs with
  | nil => rfl
  | cons r rs ih =>
    rw [List.mapM_cons, resources, ih]

theorem resolve_ok_iff {ds : Declarations} {g : Registry} :
    ds.resolve = .ok g ↔
      ds.check = .ok () ∧ TableDef.ofDecls ds = .ok g.tables ∧
        List.Forall₂ (fun d r => resource ds d = .ok r) ds g.resources := by
  unfold Declarations.resolve
  simp only [bind_eq_ok, resources_eq, mapM_eq_ok]
  constructor
  · rintro ⟨_, hcheck, tables, htables, rs, hrs, he⟩
    obtain rfl := Except.ok.inj he
    exact ⟨hcheck, htables, hrs⟩
  · rintro ⟨hcheck, htables, hrs⟩
    exact ⟨(), hcheck, g.tables, htables, g.resources, hrs, rfl⟩

/-- Every resource of a registry is the compiled form of a declaration. -/
theorem mem_resolved {ds : Declarations} {g : Registry} (h : ds.resolve = .ok g) {r : Resource}
    (hr : r ∈ g.resources) : ∃ d ∈ ds, resource ds d = .ok r := by
  obtain ⟨_, _, hrs⟩ := resolve_ok_iff.mp h
  exact partner_of_mem hrs hr

/-! ## Plain names -/

/-- No table and no primary key has a brace in its name. -/
def PlainNames (ds : Declarations) : Prop :=
  ∀ d ∈ ds, Plain d.tableName ∧ ∀ f ∈ d.fields, f.primaryKey = true → Plain f.name

instance (ds : Declarations) : Decidable (PlainNames ds) :=
  inferInstanceAs (Decidable (∀ d ∈ ds, _))

/-- A resource with the written templates, which need not be read. -/
def writtenResource (ds : Declarations) (d : ResourceDecl) : Except ConfigError Resource :=
  (parts ds d).map fun p =>
    p.resource ds d (Statement.written (p.view ds d) (Parts.hidden d) (p.dependents ds d))

/-- The resources with the written templates. -/
def writtenResources (ds : Declarations) : Except ConfigError (List Resource) := do
  ds.check
  let _ ← TableDef.ofDecls ds
  ds.mapM (writtenResource ds)

theorem owner_mem {ds : Declarations} {d : ResourceDecl} (hd : d ∈ ds) {p : Parts}
    (h : p.Valid ds d) : p.owner d ∈ ds := by
  have hparent := h.parent
  unfold parentOf at hparent
  unfold Parts.owner
  cases hext : d.info.extendsOn with
  | none =>
    rw [hext] at hparent
    rw [← Except.ok.inj hparent]
    exact hd
  | some ext =>
    rw [hext] at hparent
    dsimp only at hparent
    cases hname : ds.byName? ext.parent with
    | none =>
      rw [hname] at hparent
      contradiction
    | some q =>
      rw [hname] at hparent
      rw [← Except.ok.inj hparent]
      exact List.mem_of_find?_eq_some hname

theorem resource_written {ds : Declarations} (hplain : PlainNames ds) {d : ResourceDecl}
    (hd : d ∈ ds) {r : Resource} (h : writtenResource ds d = .ok r) : resource ds d = .ok r := by
  obtain ⟨p, hp, rfl⟩ := map_eq_ok.mp h
  have hvalid := parts_ok_iff.mp hp
  obtain ⟨htable, hkeys⟩ := hplain _ (owner_mem hd hvalid)
  have hpk : Plain p.pk.name :=
    hkeys _ (List.mem_of_find?_eq_some hvalid.pk) (by simpa using List.find?_some hvalid.pk)
  exact resource_ok_iff.mpr ⟨p, _, hvalid,
    Statement.templates_plain (p.view ds d) htable hpk _ _, rfl⟩

/-- With plain names the registry can be computed without reading templates. -/
theorem resolve_plain {ds : Declarations} (hplain : PlainNames ds) {rs : List Resource}
    (h : writtenResources ds = .ok rs) : ∃ tables, ds.resolve = .ok ⟨rs, tables⟩ := by
  unfold writtenResources at h
  simp only [bind_eq_ok, mapM_eq_ok] at h
  obtain ⟨_, hcheck, tables, htables, hrs⟩ := h
  refine ⟨tables, resolve_ok_iff.mpr ⟨hcheck, htables, ?_⟩⟩
  have hmem : List.Forall₂ (fun d r => d ∈ ds ∧ writtenResource ds d = .ok r) ds rs :=
    (List.forall₂_and_left ds rs).mpr ⟨fun _ hd => hd, hrs⟩
  exact hmem.imp fun d r h => resource_written hplain h.1 h.2

/-- A property of a written resource is one of a resource of the registry. -/
theorem exists_resolved (ds : Declarations) (P : Resource → Bool) (hplain : PlainNames ds)
    (h : (writtenResources ds).toOption.any (·.any P) = true) :
    ∃ g, ds.resolve = .ok g ∧ ∃ r ∈ g.resources, P r = true := by
  cases hrs : writtenResources ds with
  | error e =>
    rw [hrs] at h
    contradiction
  | ok rs =>
    rw [hrs] at h
    obtain ⟨tables, hresolve⟩ := resolve_plain hplain hrs
    exact ⟨_, hresolve, List.any_eq_true.mp h⟩

/-! ## Other names -/

/-- A resource whose templates are read back from their segments. -/
def rereadResource (ds : Declarations) (d : ResourceDecl) : Except ConfigError Resource := do
  let p ← parts ds d
  let templates ← Statement.rereadTemplates (p.view ds d) (Parts.hidden d) (p.dependents ds d)
  return p.resource ds d templates

/-- The registry of these resources. -/
def rereadRegistry (ds : Declarations) : Except ConfigError Registry := do
  ds.check
  let tables ← TableDef.ofDecls ds
  let resources ← ds.mapM (rereadResource ds)
  return ⟨resources, tables⟩

theorem resource_reread (ds : Declarations) : resource ds = rereadResource ds := by
  funext d
  rw [resource_eq, rereadResource]
  simp only [Statement.templates_reread]

theorem resolve_reread (ds : Declarations) : ds.resolve = rereadRegistry ds := by
  unfold Declarations.resolve rereadRegistry
  simp only [resources_eq, resource_reread]

/-- Where a name has a brace, the templates have to be read. -/
theorem exists_compiled (ds : Declarations) (P : Resource → Bool)
    (h : (rereadRegistry ds).toOption.any (·.resources.any P) = true) :
    ∃ g, ds.resolve = .ok g ∧ ∃ r ∈ g.resources, P r = true := by
  rw [resolve_reread]
  cases hg : rereadRegistry ds with
  | error e =>
    rw [hg] at h
    contradiction
  | ok g =>
    rw [hg] at h
    exact ⟨g, rfl, List.any_eq_true.mp h⟩

end Compile

end RowServe
