import RowServe.Proofs.Resource.Joins
import RowServe.Proofs.Resource.Merged

/-!
# Filters on linked rows

Which keys an object has that an accepted filter holds for a foreign key. An object that is
sent for a linked row is checked by the columns that the linked resource lists. Where the
key is a document itself, the text of an object is taken as well, and nothing is asked of
its keys; nor is anything asked where there is no join.

Results:

* `convert_object`: only dictionaries are converted to objects.
* `join_lists`: what a join is filtered by are the columns that the linked resource lists.
* `linked_object`: what an object that stands for a linked row was sent as.
-/

namespace RowServe

/-! ## Objects as values -/

namespace Convert

theorem toDict_some {v w : Json} (h : toDict v = some w) :
    v = w ∨ ∃ text, v = .str text ∧ Json.parse? text = some w := by
  cases v with
  | obj entries => exact .inl (Option.some.inj h)
  | str text =>
    dsimp only [toDict] at h
    split at h
    · rename_i entries hparse
      rw [← Option.some.inj h]
      exact .inr ⟨text, rfl, hparse⟩
    · contradiction
  | _ => contradiction

/-- Only a dictionary is converted to an object, which is one already or the text of one. -/
theorem convert_object {t : ValueType} {items : Option ValueType} {v : Json} {entries : Object}
    (h : convert t items v = .ok (.obj entries)) :
    t = .dict ∧
      (v = .obj entries ∨ ∃ text, v = .str text ∧ Json.parse? text = some (.obj entries)) := by
  have hnone {α : Type} {x : Option α} {f : α → Json} (hf : ∀ a, f a ≠ .obj entries) :
      x.map f ≠ some (.obj entries) := by
    intro hx
    obtain ⟨a, _, ha⟩ := Option.map_eq_some_iff.mp hx
    exact hf a ha
  have htype (h : toType t v = .ok (.obj entries)) : t = .dict ∧
      (v = .obj entries ∨ ∃ text, v = .str text ∧ Json.parse? text = some (.obj entries)) := by
    cases t with
    | dict => exact ⟨rfl, toDict_some (orRefuse_ok h)⟩
    | float =>
      have hfloat := orRefuse_ok h
      cases v with
      | str text => exact absurd hfloat (hnone fun x => by simp)
      | num | null | bool | arr | obj => simp [toFloat] at hfloat
    | integer | boolean | list => exact absurd (orRefuse_ok h) (hnone fun x => by simp [Json.ofInt])
    | string | date | datetime | uuid => exact absurd (orRefuse_ok h) (hnone fun x => by simp)
  unfold convert at h
  split at h
  · split at h
    · contradiction
    · split at h
      · exact absurd (Except.ok.inj h) (by simp)
      · contradiction
  · exact htype h

end Convert

namespace Contract

theorem checkPlain_object {s : FieldSpec} {raw : Json} {entries : Object}
    (h : checkPlain s raw = .ok (.obj entries)) :
    s.valueType = .dict ∧
      (raw = .obj entries ∨ ∃ text, raw = .str text ∧ Json.parse? text = some (.obj entries)) :=
  Convert.convert_object (obeying_ok h)

/-- An object for a linked row was checked by the contract for it, unless it was a text. -/
theorem checkLookup_object {s : FieldSpec} {c : Contract} {raw : Json} {entries : Object}
    (hpart : c.complete = false) (h : checkValue s c.asLookup raw = .ok (.obj entries)) :
    (∀ k, Keyed.has k entries = true → k ∈ c.names) ∨
      (s.valueType = .dict ∧ ∃ text, raw = .str text ∧ Json.parse? text = some (.obj entries)) := by
  cases raw with
  | obj sent =>
    rw [Json.obj.inj (checkValue_inner (.inl rfl) h).2]
    exact .inl fun k hk => (check_valid_keys hpart hk).2
  | null | bool | num | str | arr =>
    obtain ⟨hdict, hraw | htext⟩ := checkPlain_object (by simpa only [asLookup, checkValue] using h)
    · contradiction
    · exact .inr ⟨hdict, htext⟩

end Contract

namespace Compile

variable {ds : Declarations} {d : ResourceDecl} {g : Registry} {r : Resource}

/-! ## Contracts for linked rows -/

theorem fieldOf_type {e : FieldDecl} {own : FieldSpec × Shape}
    (h : Contract.fieldOf e = .ok own) : own.1.valueType = e.valueType := by
  obtain ⟨spec, hspec, rfl⟩ := map_eq_ok.mp h
  unfold FieldSpec.ofDecl at hspec
  split at hspec
  · rw [← Except.ok.inj hspec]
  · split at hspec
    · rw [← Except.ok.inj hspec]
    · contradiction

theorem lookupContract_ok {linked : ResourceDecl} {names : List String} {c : Contract}
    (h : lookupContract linked names = .ok c) :
    c.complete = false ∧ ∀ k ∈ c.names, k ∈ names := by
  obtain ⟨specs, hspecs, rfl⟩ := map_eq_ok.mp h
  refine ⟨rfl, fun k hk => ?_⟩
  obtain ⟨e, he, rfl⟩ := List.mem_map.mp hk
  obtain ⟨f, hf, hread⟩ := partner_of_mem (mapM_eq_ok.mp hspecs) he
  obtain ⟨n, hn, hfind⟩ := List.mem_filterMap.mp hf
  have hname : e.1.name = n := (fieldOf_name hread).trans (ResourceDecl.field?_name hfind)
  exact hname ▸ hn

/-- The fields of a contract that reads have the shapes for reading. -/
theorem readContract_shape {list : Bool} {linked : List Linked} {nested : List (String × Contract)}
    {fields : List Field} {names : List String} {c : Contract}
    (h : readContract list linked nested fields names = .ok c) {e : FieldSpec × Shape}
    (he : e ∈ c.fields) :
    ∃ f own, fields.find? (·.name = e.1.name) = some f ∧
      Contract.fieldOf f.decl = .ok (e.1, own) ∧ e.2 = readShape list linked nested f own := by
  obtain ⟨specs, hspecs, rfl⟩ := map_eq_ok.mp h
  obtain ⟨f, hf, hread⟩ := partner_of_mem (mapM_eq_ok.mp hspecs) he
  obtain ⟨⟨spec, own⟩, hown, rfl⟩ := map_eq_ok.mp hread
  obtain ⟨n, _, hfind⟩ := List.mem_filterMap.mp hf
  have hname : f.name = n := by simpa using List.find?_some hfind
  have hspec : spec.name = n := (fieldOf_name hown).trans hname
  exact ⟨f, own, hspec ▸ hfind, hown, rfl⟩

/-- What a join is made of, and the contracts for filters on the linked row. -/
theorem linkedOf_parts {ownTable name table column : String} {l : Linked}
    (h : linkedOf ds ownTable name table column = .ok l) :
    ∃ target, ds.byTable? table = some target ∧
      lookupContract target l.join.getFields = .ok l.get ∧
      lookupContract target l.join.listFields = .ok l.list ∧
      l.join.column = column ∧
      l.join.getFields = stored target (ownLists target).getBy ∧
      l.join.listFields = stored target (ownLists target).listBy ∧
      l.join.casts = Keyed.ofList (target.fields.filterMap fun f =>
        f.sql.map fun sql => (f.name, sql.cast)) := by
  unfold linkedOf at h
  cases htarget : ds.byTable? table with
  | none =>
    rw [htarget] at h
    contradiction
  | some target =>
    rw [htarget] at h
    obtain ⟨get, hget, h⟩ := bind_eq_ok.mp h
    obtain ⟨list, hlist, h⟩ := bind_eq_ok.mp h
    rw [← Except.ok.inj h]
    exact ⟨target, rfl, hget, hlist, rfl, rfl, rfl, rfl⟩

/-- A join is made for a foreign key, by the resource that owns the table it refers to. -/
theorem join_parts (hr : resource ds d = .ok r) {j : Join} (hj : j ∈ r.joins) :
    ∃ f target, r.field? j.field = some f ∧ f.kind = .foreignKey j.table j.column ∧
      ds.byTable? j.table = some target ∧ j.resource = target.name ∧
      j.getFields = stored target (ownLists target).getBy ∧
      j.listFields = stored target (ownLists target).listBy ∧
      j.casts = Keyed.ofList (target.fields.filterMap fun f =>
        f.sql.map fun sql => (f.name, sql.cast)) := by
  obtain ⟨p, templates, hp, _, rfl⟩ := resource_ok_iff.mp hr
  obtain ⟨l, hl, rfl⟩ := List.mem_map.mp hj
  obtain ⟨f, table, column, hfind, hkind, hlinked⟩ := linkedAll_ok hp.linked hl
  obtain ⟨target, htarget, _, _, hcolumn, hget, hlist, hcasts⟩ := linkedOf_parts hlinked
  obtain ⟨target', htarget', _, hresource, htable, _⟩ := linkedOf_ok hlinked
  obtain rfl : target = target' := Option.some.inj (htarget.symm.trans htarget')
  rw [← htable] at hkind htarget
  rw [← hcolumn] at hkind
  exact ⟨f, target, hfind, hkind, htarget, hresource, hget, hlist, hcasts⟩

end Compile

/-! ## Columns that are listed -/

/-- The resource lists the column for filters: it is stored, and the resource reads or lists
    its rows by it. -/
def Resource.Lists (l : Resource) (list : Bool) (k : String) : Prop :=
  k ∈ (if list then l.listBy else l.getBy) ∧ (l.field? k).any Field.isColumn = true

/-- The columns that the row of a join is filtered by. -/
def Join.listed (j : Join) (list : Bool) : List String := if list then j.listFields else j.getFields

namespace Compile

variable {ds : Declarations} {d : ResourceDecl} {g : Registry} {r : Resource}

/-- A resource with a table of its own has the columns that are declared. -/
theorem field?_plain (hr : resource ds d = .ok r) (hplain : d.info.extendsOn = none) (k : String) :
    (r.field? k).any Field.isColumn = (d.field? k).any (·.sql.isSome) := by
  obtain ⟨p, templates, hp, _, rfl⟩ := resource_ok_iff.mp hr
  have howner := hp.owner_self hplain
  show ((p.fields ds d).find? (·.name = k)).any Field.isColumn = _
  unfold Parts.fields fieldsOf
  rw [hplain, howner, List.append_nil, List.find?_map]
  show ((d.field? k).map fun e => fieldOf ds d (storageOf e) e).any Field.isColumn = _
  cases d.field? k with
  | none => rfl
  | some e =>
    show decide ((if e.sql.isSome then Storage.column else .virtual) = .column) = e.sql.isSome
    cases e.sql.isSome <;> rfl

/-- The row of a join is filtered by the columns that its own resource lists. -/
theorem join_lists (hg : ds.resolve = .ok g) (hr : r ∈ g.resources) {j : Join}
    (hj : j ∈ r.joins) :
    ∃ l, g.byName? j.resource = some l ∧ ∀ list k, k ∈ j.listed list ↔ l.Lists list k := by
  obtain ⟨d, _, hd⟩ := mem_resolved hg hr
  obtain ⟨_, target, _, _, htarget, _, hget, hlist, _⟩ := join_parts hd hj
  obtain ⟨target', l, htarget', hcompiled, hfound⟩ := join_target hg hr hj
  obtain rfl : target = target' := Option.some.inj (htarget.symm.trans htarget')
  have hplain := ResourceDecl.extends_none (Declarations.byTable?_some htarget).2.1
  refine ⟨l, hfound, fun list k => ?_⟩
  have hlists : l.getBy = (ownLists target).getBy ∧ l.listBy = (ownLists target).listBy := by
    obtain ⟨q, templates, hq, _, rfl⟩ := resource_ok_iff.mp hcompiled
    show (listsOf target q.parent).getBy = _ ∧ (listsOf target q.parent).listBy = _
    rw [hq.parent_none hplain]
    exact ⟨rfl, rfl⟩
  unfold Join.listed Resource.Lists
  rw [field?_plain hcompiled hplain, hlists.1, hlists.2, hget, hlist]
  cases list <;> exact List.mem_filter

/-! ## Objects in filters -/

/-- A value of a filter that is not one of the own fields of a nested extension comes from
    the contract. -/
theorem filter_source (hr : resource ds d = .ok r) {c : Contract}
    (hc : c ∈ [r.contracts.get, r.contracts.list, r.contracts.delete]) {input filter : Object}
    (h : r.checkFilter c input = .ok filter) {k : String} {w : Json}
    (hk : filter.find? k = some w) (hown : r.isChildField k = false) :
    ∃ e ∈ c.fields, e.1.name = k ∧ Contract.Source false input e.1 e.2 w := by
  rw [← filter_partial hr hc]
  rcases Resource.checkFilter_ok h with ⟨_, rfl⟩ | ⟨child, own, hchild, _, _, rfl⟩
  · exact Contract.check_source hk
  · rw [Keyed.find?_union _ (Contract.ordered_check child _).valid, Option.or_eq_some_iff] at hk
    rcases hk with hsecond | ⟨_, hfirst⟩
    · have hkid : r.isKid = true := by
        by_contra hno
        rw [child_none hr (by simpa using hno)] at hchild
        contradiction
      obtain ⟨fields, hfields⟩ := exists_own hr hkid
      have hback := fallsBack hr hc hfields hkid
      obtain rfl := Option.some.inj (hchild.symm.trans hback.retries)
      obtain ⟨e, he, rfl, _⟩ := Contract.check_source hsecond
      have hname := (hback.own e.1.name).mpr (List.mem_map_of_mem he)
      rw [hown] at hname
      contradiction
    · exact Contract.check_source hfirst

end Compile

/-- The contracts for filters, with the columns of linked rows that they take: those by which
    the linked resource lists rows, or those by which it reads one. -/
def Resource.filterContracts (r : Resource) : List (Contract × Bool) :=
  [(r.contracts.get, false), (r.contracts.list, true), (r.contracts.delete, false)]

/-- The object was taken for a foreign key as it came, whatever its keys: from a text, or
    where the resource has no join for it. -/
inductive Resource.TakesWhole (r : Resource) (n : String) (entries : Object) : Json → Prop where
  | text {text : String} (h : Json.parse? text = some (.obj entries)) :
      TakesWhole r n entries (.str text)
  | apart (h : r.join? n = none) : TakesWhole r n entries (.obj entries)

namespace Compile

/-- The contract that filters on the linked row are checked by. -/
def Linked.contract (l : Linked) (list : Bool) : Contract := if list then l.list else l.get

/-- The contracts for a linked row have the columns of its join for fields. -/
def Linked.Checks (l : Linked) : Prop :=
  ∀ list, (l.contract list).complete = false ∧
    ∀ k ∈ (l.contract list).names, k ∈ l.join.listed list

variable {ds : Declarations} {d : ResourceDecl} {g : Registry} {r : Resource}

theorem linkedOf_checks {ownTable name table column : String} {l : Linked}
    (h : linkedOf ds ownTable name table column = .ok l) : l.Checks := by
  obtain ⟨_, _, hget, hlist, _⟩ := linkedOf_parts h
  intro list
  cases list with
  | false => exact lookupContract_ok hget
  | true => exact lookupContract_ok hlist

/-- How the field of a contract for filters is read, given the field of the resource. -/
theorem filterContracts_shape (hr : resource ds d = .ok r) {c : Contract} {list : Bool}
    (hc : (c, list) ∈ r.filterContracts) {e : FieldSpec × Shape} (he : e ∈ c.fields) {f : Field}
    (hf : r.field? e.1.name = some f) :
    e.1.valueType = f.decl.valueType ∧ ∃ linked nested own,
      e.2 = readShape list linked nested f own ∧ (∀ l ∈ linked, l.join ∈ r.joins ∧ l.Checks) ∧
      ∀ n, r.join? n = (linked.find? (·.join.field = n)).map (·.join) := by
  obtain ⟨p, templates, hp, _, rfl⟩ := resource_ok_iff.mp hr
  obtain ⟨names, hread⟩ : ∃ names,
      readContract list p.linked p.nested (p.fields ds d) names = .ok c := by
    obtain ⟨hget, hlist, hdelete, _⟩ := contractsOf_ok hp.contracts
    simp only [Resource.filterContracts, List.mem_cons, List.not_mem_nil, or_false,
      Prod.mk.injEq] at hc
    rcases hc with ⟨rfl, rfl⟩ | ⟨rfl, rfl⟩ | ⟨rfl, rfl⟩
    · exact ⟨_, hget⟩
    · exact ⟨_, hlist⟩
    · exact ⟨_, hdelete⟩
  obtain ⟨f', own, hfind, hfieldOf, hshape⟩ := readContract_shape hread he
  obtain rfl : f = f' := Option.some.inj (hf.symm.trans hfind)
  have htype := fieldOf_type hfieldOf
  refine ⟨htype, p.linked, p.nested, own, hshape, fun l hl => ?_, fun n => ?_⟩
  · obtain ⟨_, _, _, _, _, hlinked⟩ := linkedAll_ok hp.linked hl
    exact ⟨List.mem_map_of_mem hl, linkedOf_checks hlinked⟩
  · show (p.linked.map (·.join)).find? (·.field = n) = _
    rw [List.find?_map]
    rfl

/-- An object for a foreign key has columns of the linked row for keys, or was taken whole. -/
theorem link_object {list : Bool} {linked : List Linked} {nested : List (String × Contract)}
    {f : Field} {s : FieldSpec} {own : Shape} (hkey : f.isForeignKey = true)
    (hchecks : ∀ l ∈ linked, l.Checks) {raw : Json} {entries : Object}
    (h : Contract.checkValue s (readShape list linked nested f own) raw = .ok (.obj entries)) :
    (∃ l, linked.find? (·.join.field = f.name) = some l ∧
        ∀ k, Keyed.has k entries = true → k ∈ l.join.listed list) ∨
      (s.valueType = .dict ∧ ((∃ text, raw = .str text ∧ Json.parse? text = some (.obj entries)) ∨
        (linked.find? (·.join.field = f.name) = none ∧ raw = .obj entries))) := by
  unfold Field.isForeignKey at hkey
  unfold readShape at h
  split at hkey
  · rename_i hkind
    rw [hkind] at h
    dsimp only at h
    cases hfind : linked.find? (·.join.field = f.name) with
    | none =>
      rw [hfind] at h
      obtain ⟨hdict, hraw⟩ :=
        Contract.checkPlain_object (by simpa only [Contract.checkValue] using h)
      exact .inr ⟨hdict, hraw.symm.imp_right fun hobject => ⟨rfl, hobject⟩⟩
    | some l =>
      rw [hfind] at h
      obtain ⟨hpart, hnames⟩ := hchecks l (List.mem_of_find?_eq_some hfind) list
      rcases Contract.checkLookup_object hpart h with hkeys | ⟨hdict, htext⟩
      · exact .inl ⟨l, rfl, fun k hk => hnames k (hkeys k hk)⟩
      · exact .inr ⟨hdict, .inl htext⟩
  · contradiction

/-- Foreign keys are columns of the table, and none of the own fields of an extension. -/
theorem foreignKey_column (hr : resource ds d = .ok r) {f : Field} (hf : f ∈ r.fields)
    (hkey : f.isForeignKey = true) : f.isColumn = true := by
  unfold Field.isForeignKey at hkey
  split at hkey
  · rename_i hkind
    obtain ⟨p, templates, _, _, rfl⟩ := resource_ok_iff.mp hr
    unfold Field.isColumn
    rw [(fieldsOf_foreignKey hf hkind).1]
    rfl
  · contradiction

/-- An object that an accepted filter has for a foreign key has columns that the linked
    resource lists for keys, unless the key of the linked row is a document itself and the
    object was taken whole. -/
theorem linked_object (hg : ds.resolve = .ok g) (hr : r ∈ g.resources) {c : Contract}
    {list : Bool} (hc : (c, list) ∈ r.filterContracts) {input filter : Object}
    (h : r.checkFilter c input = .ok filter) {n : String} {f : Field} (hf : r.field? n = some f)
    (hkey : f.isForeignKey = true) {entries : Object} (hv : filter.find? n = some (.obj entries)) :
    (∃ j ∈ r.joins, j.field = n ∧ ∃ l, g.byName? j.resource = some l ∧
        ∀ k, Keyed.has k entries = true → l.Lists list k) ∨
      (f.decl.valueType = .dict ∧ ∃ v, input.find? n = some v ∧ r.TakesWhole n entries v) := by
  obtain ⟨d, _, hd⟩ := mem_resolved hg hr
  have hmem : c ∈ [r.contracts.get, r.contracts.list, r.contracts.delete] :=
    List.mem_map_of_mem (f := Prod.fst) hc
  have hfield := List.mem_of_find?_eq_some hf
  have hname : f.name = n := TableView.field?_name hf
  have hown : r.isChildField n = false :=
    hname ▸ column_not_child hd hfield (foreignKey_column hd hfield hkey)
  obtain ⟨e, he, rfl, hsource⟩ := filter_source hd hmem h hv hown
  obtain ⟨htype, linked, nested, own, hshape, hlinked, hjoin⟩ := filterContracts_shape hd hc he hf
  unfold Contract.Source at hsource
  split at hsource
  · contradiction
  · rename_i raw _ hraw
    rw [hshape] at hsource
    rcases link_object hkey (fun l hl => (hlinked l hl).2) hsource with
      ⟨l, hl, hkeys⟩ | ⟨hdict, ⟨text, rfl, hparse⟩ | ⟨hnone, rfl⟩⟩
    · have hmem := (hlinked l (List.mem_of_find?_eq_some hl)).1
      have hfound := List.find?_some hl
      obtain ⟨target, htarget, hlists⟩ := join_lists hg hr hmem
      exact .inl ⟨l.join, hmem, (of_decide_eq_true hfound).trans hname, target, htarget,
        fun k hk => (hlists list k).mp (hkeys k hk)⟩
    · exact .inr ⟨htype.symm.trans hdict, _, hraw, .text hparse⟩
    · refine .inr ⟨htype.symm.trans hdict, _, hraw, .apart ?_⟩
      rw [hjoin, ← hname, hnone]
      rfl
  · obtain ⟨hfalse, _⟩ := hsource
    contradiction

end Compile

end RowServe
