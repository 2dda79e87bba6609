import RowServe.Proofs.Resource.Identified

/-!
# The registry of checked declarations

What holds between the resources and the tables that declarations resolve to. The tables are
those of the resources that are not kept inside others; a nested extension has all that its
parent has; every field that is listed is in the contract for the list; and a route leads to
one resource.

Results:

* `readContract_all`: a contract over names that are all known drops none of them.
* `listed_known`: every listed name is that of a field.
* `byRoute?_iff`: which resource is found under a route.
* `resolve_coherent`: all of this together.
-/

namespace RowServe

/-! ## What a coherent registry is -/

/-- The table stores the rows of a resource: it has the stored fields as columns, and exactly
    one of them is the primary key. -/
structure TableDef.Stores (t : TableDef) (r : Resource) : Prop where
  resource : t.resource = r.name
  name : t.name = r.table
  columns : t.columns = r.fields.filterMap fun f => ColumnDef.ofDecl? f.decl
  key : ∃ c, t.columns.filter (·.primaryKey) = [c] ∧ c.name = r.pk

/-- A nested extension, declared like this, has the table and the fields of its parent, and
    then fields of its own, which are kept in the extended column. -/
structure Resource.Inherits (kid parent : Resource) (d : ResourceDecl) (column : String) :
    Prop where
  plain : parent.isKid = false
  table : kid.table = parent.table
  pk : kid.pk = parent.pk
  fields : ∃ own, kid.fields = parent.fields ++ own ∧
    own.map (·.decl) = d.fields.filter (fun e => !parent.fields.any (·.name = e.name)) ∧
    own.map (·.name) = kid.childFields ∧ ∀ f ∈ own, f.storage = .extension column
  disjoint : ∀ n ∈ kid.childFields, ∀ f ∈ parent.fields, f.name ≠ n
  operations : ∀ op ∈ kid.operations, op ∈ parent.operations

/-- The contracts for filters take exactly the listed fields, and what is declared is listed. -/
structure Resource.TakesListed (r : Resource) (d : ResourceDecl) : Prop where
  get : r.contracts.get.names = r.getBy
  list : r.contracts.list.names = r.listBy
  delete : r.contracts.delete.names = r.deleteBy
  getBy : ∀ n ∈ d.info.getBy.getD [], n ∈ r.getBy
  listBy : ∀ n ∈ d.info.listBy.getD [], n ∈ r.listBy
  deleteBy : ∀ n ∈ d.info.deleteBy.getD [], n ∈ r.deleteBy

/-- The resources and the tables of a registry fit the declarations and each other. -/
structure Registry.Coherent (g : Registry) (ds : Declarations) : Prop where
  order : g.resources.map (·.name) = ds.map (·.name)
  synthesized : List.Forall₂ (fun d t => TableDef.ofDecl d = .ok (some t))
    (ds.filter (!·.isKid)) g.tables
  tables : List.Forall₂ (fun r t => TableDef.Stores t r) (g.resources.filter (!·.isKid)) g.tables
  kids : List.Forall₂ (fun d kid => ∀ ext, kid.extendsOn = some ext →
    ∃ parent, g.byName? ext.parent = some parent ∧ kid.Inherits parent d ext.column) ds g.resources
  lists : List.Forall₂ (fun d r => r.TakesListed d) ds g.resources
  routes : ∀ route r, g.byRoute? route = some r ↔
    r ∈ g.resources ∧ r.createViews = true ∧ r.route = route

namespace Compile

variable {ds : Declarations} {d : ResourceDecl} {g : Registry} {r : Resource}

/-! ## Listed fields -/

/-- A contract over names that are all known drops none of them. -/
theorem readContract_all {list : Bool} {linked : List Linked} {nested : List (String × Contract)}
    {fields : List Field} {names : List String} {c : Contract}
    (h : readContract list linked nested fields names = .ok c)
    (hknown : ∀ n ∈ names, ∃ f ∈ fields, f.name = n) : c.names = names := by
  obtain ⟨specs, hspecs, rfl⟩ := map_eq_ok.mp h
  have hfound : (names.filterMap fun n => fields.find? (·.name = n)).map Field.name = names := by
    clear h hspecs
    induction names with
    | nil => rfl
    | cons n names ih =>
      obtain ⟨hn, hnames⟩ := List.forall_mem_cons.mp hknown
      cases hfind : fields.find? (·.name = n) with
      | none =>
        obtain ⟨f, hf, hname⟩ := hn
        exact absurd hname (by simpa using List.find?_eq_none.mp hfind f hf)
      | some f =>
        have hname : f.name = n := by simpa using List.find?_some hfind
        simp only [List.filterMap_cons, hfind, List.map_cons, hname, ih hnames]
  have hkept : List.Forall₂ (fun f (e : FieldSpec × Shape) => f.name = e.1.name)
      (names.filterMap fun n => fields.find? (·.name = n)) specs := by
    refine (mapM_eq_ok.mp hspecs).imp fun f e he => ?_
    obtain ⟨own, hown, rfl⟩ := map_eq_ok.mp he
    exact (fieldOf_name hown).symm
  have hnames : (names.filterMap fun n => fields.find? (·.name = n)).map Field.name =
      specs.map (·.1.name) := by
    rw [← List.forall₂_eq_eq_eq, List.forall₂_map_left_iff, List.forall₂_map_right_iff]
    exact hkept
  exact hnames.symm.trans hfound

theorem hasField_iff {n : String} : d.hasField n = true ↔ ∃ e ∈ d.fields, e.name = n := by
  simp [ResourceDecl.hasField, ResourceDecl.field?]

/-- The lists that a resource has by itself name its fields. -/
theorem ownLists_known (hcheck : ds.check = .ok ()) (hd : d ∈ ds)
    (hplain : d.info.extendsOn = none) :
    ∀ names ∈ [(ownLists d).getBy, (ownLists d).listBy, (ownLists d).deleteBy], ∀ n ∈ names,
      d.hasField n = true := by
  have hdeclared : ∀ names ∈ [d.info.getBy, d.info.listBy, d.info.deleteBy],
      ∀ n ∈ names.getD [], d.hasField n = true := by
    intro names hnames n hn
    rcases (Declarations.check_listed hcheck hd).1 names hnames n hn with hown | ⟨ext, _, hext, _⟩
    · exact hown
    · rw [hplain] at hext
      contradiction
  have hpk : ∀ n ∈ (d.primaryKey?.map (·.name)).toList, d.hasField n = true := by
    intro n hn
    obtain ⟨pk, hpk, rfl⟩ := Option.map_eq_some_iff.mp (Option.mem_toList.mp hn)
    exact hasField_iff.mpr ⟨pk, List.mem_of_find?_eq_some hpk, rfl⟩
  have hunique : ∀ n ∈ (d.fields.filter fun f => f.unique && !f.primaryKey && f.sql.isSome).map
      (·.name), d.hasField n = true := by
    intro n hn
    obtain ⟨e, he, rfl⟩ := List.mem_map.mp hn
    exact hasField_iff.mpr ⟨e, List.mem_of_mem_filter he, rfl⟩
  have hget : ∀ n ∈ (ownLists d).getBy, d.hasField n = true := by
    unfold ownLists
    dsimp only
    cases hget : d.info.getBy with
    | none => exact fun n hn => ((mem_union _ _ n).mp hn).elim (hpk n) (hunique n)
    | some names => exact hdeclared (some names) (by simp [hget])
  simp only [List.forall_mem_cons, List.not_mem_nil, false_implies, implies_true, and_true]
  refine ⟨hget, ?_, ?_⟩
  · show ∀ n ∈ d.info.listBy.getD (ownLists d).getBy, _
    cases hlist : d.info.listBy with
    | none => exact hget
    | some names => exact hdeclared (some names) (by simp [hlist])
  · show ∀ n ∈ d.info.deleteBy.getD (d.primaryKey?.map (·.name)).toList, _
    cases hdelete : d.info.deleteBy with
    | none => exact hpk
    | some names => exact hdeclared (some names) (by simp [hdelete])

theorem owner_of_parent {ext : Extension} (hext : d.info.extendsOn = some ext) {q : ResourceDecl}
    (hq : ds.byName? ext.parent = some q) : ds.owner d = q := by
  unfold Declarations.owner
  rw [hext]
  dsimp only
  rw [hq]
  rfl

theorem mem_fields_of_known {p : Parts} (hp : p.Valid ds d) {n : String}
    (h : d.hasField n = true ∨ (p.owner d).hasField n = true) :
    ∃ f ∈ p.fields ds d, f.name = n := by
  have howner (h : (p.owner d).hasField n = true) : ∃ f ∈ p.fields ds d, f.name = n := by
    obtain ⟨e, he, rfl⟩ := hasField_iff.mp h
    exact ⟨_, List.mem_append_left _ (List.mem_map_of_mem he), rfl⟩
  by_cases hinherited : (p.owner d).hasField n = true
  · exact howner hinherited
  · obtain ⟨e, he, rfl⟩ := hasField_iff.mp (h.resolve_right hinherited)
    cases hext : d.info.extendsOn with
    | none =>
      rw [hp.owner_eq, Declarations.owner, hext] at hinherited
      exact absurd (hasField_iff.mpr ⟨e, he, rfl⟩) hinherited
    | some ext =>
      have hparent := (parent_eq hp hext).1
      rw [hp.owner_eq, hasField_iff] at hinherited
      have hown : e ∈ ownFields d (ds.owner d) :=
        mem_ownFields.mpr ⟨he, fun f hf hname => hinherited ⟨f, hf, hname⟩⟩
      obtain ⟨f, hf, rfl⟩ := own_field hp hparent hown
      exact ⟨f, hf, rfl⟩

/-- Every name in the lists of a resource is that of a field. -/
theorem listed_known (hcheck : ds.check = .ok ()) (hd : d ∈ ds) {p : Parts} (hp : p.Valid ds d) :
    ∀ names ∈ [(p.lists d).getBy, (p.lists d).listBy, (p.lists d).deleteBy], ∀ n ∈ names,
      ∃ f ∈ p.fields ds d, f.name = n := by
  cases hext : d.info.extendsOn with
  | none =>
    unfold Parts.lists listsOf
    rw [hp.parent_none hext]
    intro names hnames n hn
    exact mem_fields_of_known hp (.inl (ownLists_known hcheck hd hext names hnames n hn))
  | some ext =>
    obtain ⟨howner, hplain⟩ := owner_plain hcheck hd
    have hbase := ownLists_known hcheck howner (ResourceDecl.extends_none hplain)
    have hdeclared := (Declarations.check_listed hcheck hd).1
    have hunion {base declared : List String}
        (hbase : ∀ n ∈ base, (ds.owner d).hasField n = true)
        (hdeclared : ∀ n ∈ declared, ds.Knows d n) :
        ∀ n ∈ union base declared, ∃ f ∈ p.fields ds d, f.name = n := by
      intro n hn
      refine mem_fields_of_known hp ?_
      rw [hp.owner_eq]
      rcases (mem_union _ _ n).mp hn with hn | hn
      · exact .inr (hbase n hn)
      · rcases hdeclared n hn with hown | ⟨ext', q, hext', hq, hfield⟩
        · exact .inl hown
        · refine .inr ?_
          obtain rfl := Option.some.inj (hext.symm.trans hext')
          rw [owner_of_parent hext hq]
          exact hfield
    unfold Parts.lists listsOf
    rw [(parent_eq hp hext).1]
    simp only [List.forall_mem_cons, List.not_mem_nil, false_implies, implies_true, and_true]
      at hbase hdeclared ⊢
    exact ⟨hunion hbase.1 hdeclared.1, hunion hbase.2.1 hdeclared.2.1,
      hunion hbase.2.2 hdeclared.2.2⟩

/-- The lists of a resource have all that is declared to be in them. -/
theorem listed_declared (p : Parts) :
    (∀ n ∈ d.info.getBy.getD [], n ∈ (p.lists d).getBy) ∧
      (∀ n ∈ d.info.listBy.getD [], n ∈ (p.lists d).listBy) ∧
      ∀ n ∈ d.info.deleteBy.getD [], n ∈ (p.lists d).deleteBy := by
  have hgetD {declared : Option (List String)} (names : List String) :
      ∀ n ∈ declared.getD [], n ∈ declared.getD names := by
    cases declared <;> simp
  have hunion (base declared : List String) : ∀ n ∈ declared, n ∈ union base declared :=
    fun n hn => (mem_union _ _ n).mpr (.inr hn)
  unfold Parts.lists listsOf
  cases p.parent with
  | none => exact ⟨hgetD _, hgetD _, hgetD _⟩
  | some q => exact ⟨hunion _ _, hunion _ _, hunion _ _⟩

/-- No listed name is dropped from the contract for its list. -/
theorem resource_listed (hcheck : ds.check = .ok ()) (hd : d ∈ ds) (hr : resource ds d = .ok r) :
    r.TakesListed d := by
  obtain ⟨p, templates, hp, _, rfl⟩ := resource_ok_iff.mp hr
  obtain ⟨hget, hlist, hdelete, _⟩ := contractsOf_ok hp.contracts
  have hknown := listed_known hcheck hd hp
  simp only [List.forall_mem_cons, List.not_mem_nil, false_implies, implies_true, and_true]
    at hknown
  obtain ⟨hdget, hdlist, hddelete⟩ := listed_declared (d := d) p
  exact ⟨readContract_all hget hknown.1, readContract_all hlist hknown.2.1,
    readContract_all hdelete hknown.2.2, hdget, hdlist, hddelete⟩

/-! ## Tables -/

/-- The table of a resource that is not kept inside another one stores the resource. -/
theorem stores_resource (hr : resource ds d = .ok r) {t : TableDef}
    (ht : TableDef.ofDecl d = .ok (some t)) : t.Stores r := by
  obtain ⟨hplain, hkey, rfl⟩ := TableDef.ofDecl_ok ht
  obtain ⟨p, templates, hp, _, rfl⟩ := resource_ok_iff.mp hr
  have hext := ResourceDecl.extends_none hplain
  have howner := hp.owner_self hext
  refine ⟨rfl, ?_, ?_, ?_⟩
  · show d.tableName = (p.owner d).tableName
    rw [howner]
  · show _ = (fieldsOf ds d (p.owner d)).filterMap _
    unfold fieldsOf
    rw [howner, hext, List.append_nil, List.filterMap_map]
    rfl
  · obtain ⟨key, hkeys, hstored⟩ := TableDef.checkKey_one hkey
    have hpk := hp.pk
    rw [howner, TableDef.primaryKey?_of_one hkeys] at hpk
    obtain ⟨c, hc, hname⟩ := ColumnDef.ofDecl?_stored hstored
    refine ⟨c, ?_, hname.trans (congrArg FieldDecl.name (Option.some.inj hpk))⟩
    dsimp only
    rw [TableDef.filter_columns, hkeys, List.filterMap_cons, hc]
    rfl

/-! ## Nested extensions -/

theorem operations_subset {excluded excluded' : List Operation}
    (h : ∀ op ∈ excluded, op ∈ excluded') :
    ∀ op ∈ Operation.all.filter (fun op => !excluded'.contains op),
      op ∈ Operation.all.filter fun op => !excluded.contains op := by
  intro op hop
  simp only [List.mem_filter, Bool.not_eq_true', List.contains_eq_mem, decide_eq_false_iff_not]
    at hop ⊢
  exact ⟨hop.1, fun hmem => hop.2 (h op hmem)⟩

/-- The fields of a nested extension are those of its parent, and then its own. -/
theorem inherited_fields {ext : Extension} (hext : d.info.extendsOn = some ext)
    (hplain : (ds.owner d).info.extendsOn = none) {p q : Parts} (hp : p.Valid ds d)
    (hq : q.Valid ds (ds.owner d)) :
    q.owner (ds.owner d) = p.owner d ∧
      q.fields ds (ds.owner d) =
        (p.owner d).fields.map (fun e => fieldOf ds (p.owner d) (storageOf e) e) ∧
      p.fields ds d = q.fields ds (ds.owner d) ++
        (ownFields d (p.owner d)).map (fieldOf ds (p.owner d) (.extension ext.column)) := by
  have howner : q.owner (ds.owner d) = p.owner d := by
    rw [hp.owner_eq, hq.owner_eq, Declarations.owner, hplain]
  have hfields : q.fields ds (ds.owner d) =
      (p.owner d).fields.map fun e => fieldOf ds (p.owner d) (storageOf e) e := by
    unfold Parts.fields fieldsOf
    rw [hplain, howner, List.append_nil]
  refine ⟨howner, hfields, ?_⟩
  rw [hfields]
  unfold Parts.fields fieldsOf
  rw [hext]

/-- A nested extension has what its parent has, and its own fields in the extended column. -/
theorem inherits_parent {ext : Extension} (hext : d.info.extendsOn = some ext)
    (hr : resource ds d = .ok r) (hplain : (ds.owner d).info.extendsOn = none) {parent : Resource}
    (hparent : resource ds (ds.owner d) = .ok parent) : r.Inherits parent d ext.column := by
  obtain ⟨p, templates, hp, _, rfl⟩ := resource_ok_iff.mp hr
  obtain ⟨q, templates', hq, _, rfl⟩ := resource_ok_iff.mp hparent
  obtain ⟨howner, hfields, hown⟩ := inherited_fields hext hplain hp hq
  have hchild : (p.resource ds d templates).childFields =
      (ownFields d (p.owner d)).map (·.name) := by
    show (if p.parent.isSome then (ownFields d (p.owner d)).map (·.name) else []) = _
    rw [(parent_eq hp hext).1]
    rfl
  have hnames : ∀ n, (q.fields ds (ds.owner d)).any (·.name = n) = (p.owner d).hasField n := by
    intro n
    rw [hfields, List.any_map, Bool.eq_iff_iff, List.any_eq_true, hasField_iff]
    exact exists_congr fun e => and_congr_right fun _ => decide_eq_true_iff
  refine ⟨?_, ?_, ?_, ⟨_, hown, ?_, ?_, ?_⟩, ?_, ?_⟩
  · show (ds.owner d).info.extendsOn.isSome = false
    rw [hplain]
    rfl
  · show (p.owner d).tableName = (q.owner (ds.owner d)).tableName
    rw [howner]
  · have hpk := hq.pk
    rw [howner, hp.pk] at hpk
    exact congrArg FieldDecl.name (Option.some.inj hpk)
  · rw [List.map_map]
    show (ownFields d (p.owner d)).map id = _
    rw [List.map_id]
    exact List.filter_congr fun e _ => by rw [← hnames e.name]; rfl
  · rw [hchild, List.map_map]
    rfl
  · intro f hf
    obtain ⟨e, _, rfl⟩ := List.mem_map.mp hf
    rfl
  · rw [hchild]
    intro n hn f hf hname
    obtain ⟨e, he, rfl⟩ := List.mem_map.mp hn
    have hf : f ∈ q.fields ds (ds.owner d) := hf
    rw [hfields] at hf
    obtain ⟨e', he', rfl⟩ := List.mem_map.mp hf
    exact (mem_ownFields.mp he).2 e' he' hname
  · refine operations_subset ?_
    unfold Parts.lists listsOf
    rw [(parent_eq hp hext).1, hq.parent_none hplain]
    exact fun op hop => (mem_union _ _ op).mpr (.inl hop)

/-! ## Routes -/

theorem resource_declared (hr : resource ds d = .ok r) :
    r.route = d.route ∧ r.createViews = d.info.createViews ∧ r.extendsOn = d.info.extendsOn := by
  obtain ⟨p, templates, _, _, rfl⟩ := resource_ok_iff.mp hr
  exact ⟨rfl, rfl, rfl⟩

/-- A route leads to the one resource with views that has it. -/
theorem byRoute?_iff (hg : ds.resolve = .ok g) {route : String} :
    g.byRoute? route = some r ↔ r ∈ g.resources ∧ r.createViews = true ∧ r.route = route := by
  have hviews {q : Resource} (hq : g.byRoute? route = some q) :
      q ∈ g.resources ∧ q.createViews = true ∧ q.route = route :=
    ⟨List.mem_of_find?_eq_some hq, by simpa using List.find?_some hq⟩
  have hunique {q q' : Resource} (hq : q ∈ g.resources ∧ q.createViews = true ∧ q.route = route)
      (hq' : q' ∈ g.resources ∧ q'.createViews = true ∧ q'.route = route) : q = q' := by
    obtain ⟨hcheck, _, _⟩ := resolve_ok_iff.mp hg
    obtain ⟨e, he, hcompiled⟩ := mem_resolved hg hq.1
    obtain ⟨e', he', hcompiled'⟩ := mem_resolved hg hq'.1
    obtain ⟨hname, hserved, _⟩ := resource_declared hcompiled
    obtain ⟨hname', hserved', _⟩ := resource_declared hcompiled'
    obtain rfl := Declarations.check_routes hcheck he he' (hserved ▸ hq.2.1) (hserved' ▸ hq'.2.1)
      ((hname ▸ hq.2.2).trans (hname' ▸ hq'.2.2).symm)
    exact Except.ok.inj (hcompiled.symm.trans hcompiled')
  refine ⟨hviews, fun h => ?_⟩
  cases hfound : g.byRoute? route with
  | none =>
    have hno := List.find?_eq_none.mp hfound r h.1
    simp [h.2] at hno
  | some q => rw [hunique (hviews hfound) h]

/-! ## The registry -/

/-- Checked declarations resolve to a registry in which everything fits. -/
theorem resolve_coherent (hg : ds.resolve = .ok g) : g.Coherent ds := by
  obtain ⟨hcheck, htables, hrs⟩ := resolve_ok_iff.mp hg
  have hmade := TableDef.ofDecls_made htables
  have hcompiled : List.Forall₂ (fun d r => d ∈ ds ∧ resource ds d = .ok r) ds g.resources :=
    (List.forall₂_and_left ds g.resources).mpr ⟨fun _ hd => hd, hrs⟩
  refine ⟨names_compiled hrs, hmade, ?_, ?_, ?_, fun route r => byRoute?_iff hg⟩
  · have hown := List.rel_filter (p := (!·.isKid)) (q := (!·.isKid)) ?_ hrs
    · refine join_forall₂ ?_ hown hmade
      exact fun d r t hr ht => stores_resource hr ht
    · intro d r hr
      show (!d.info.extendsOn.isSome) = true ↔ (!r.extendsOn.isSome) = true
      rw [(resource_declared hr).2.2]
  · refine hcompiled.imp fun d r h ext hext => ?_
    obtain ⟨hd, hr⟩ := h
    rw [(resource_declared hr).2.2] at hext
    obtain ⟨q, hq, hplain, _⟩ := Declarations.check_extension hcheck hd hext
    obtain ⟨parent, hparent, hq'⟩ := partner_of_mem hrs.flip (List.mem_of_find?_eq_some hq)
    have hname : q.name = ext.parent := by simpa using List.find?_some hq
    have hfound := byName?_of_mem hg hparent
    rw [resource_name hq', hname] at hfound
    rw [← owner_of_parent hext hq] at hplain hq'
    exact ⟨parent, hfound,
      inherits_parent hext hr (by simpa [ResourceDecl.isKid] using hplain) hq'⟩
  · exact hcompiled.imp fun d r h => resource_listed hcheck h.1 h.2

/-- Operators are a nested extension with a route of their own. -/
theorem staff_coherent : ∃ g, Declarations.staff.resolve = .ok g ∧
    g.Coherent Declarations.staff ∧ ∃ kid, g.byRoute? "operator" = some kid ∧ kid.isKid = true := by
  obtain ⟨g, hg, kid, hkid, hP⟩ := exists_resolved Declarations.staff
    (fun r => r.isKid && r.createViews && r.route = "operator")
    (by decide +kernel) (by decide +kernel)
  simp only [Bool.and_eq_true, decide_eq_true_eq] at hP
  have hcoherent := resolve_coherent hg
  exact ⟨g, hg, hcoherent, kid, (hcoherent.routes "operator" kid).mpr ⟨hkid, hP.1.2, hP.2⟩,
    hP.1.1⟩

end Compile

end RowServe
