import RowServe.Proofs.Declaration.Tables
import RowServe.Proofs.Resource.Parts

/-!
# Joins of a compiled resource

A join is made for a field that is a foreign key, and all that it has follows from the
field. So a name has at most one join, and it leads to the resource that owns the table
the field refers to.

Results:

* `linkedAll_ok`: every join belongs to a foreign key.
* `join?_of_mem`: the joins of a resource are found under the names of their fields.
* `join_target`: the resource that a join leads to.
-/

namespace RowServe

theorem Join.aliasName_inj {i j : Join} (h : i.aliasName = j.aliasName) : i.field = j.field := by
  unfold aliasName at h
  simpa using h

namespace Compile

variable {ds : Declarations} {d : ResourceDecl} {p : Parts}

/-- What is alone with its name is found under it. -/
theorem find?_of_unique {α : Type} {name : α → String} {as : List α} {a : α} (ha : a ∈ as)
    (h : ∀ b ∈ as, name b = name a → b = a) :
    as.find? (fun b => name b = name a) = some a := by
  cases hfind : as.find? (fun b => name b = name a) with
  | none =>
    have hne := List.find?_eq_none.mp hfind a ha
    simp at hne
  | some b =>
    have hname : name b = name a := by simpa using List.find?_some hfind
    rw [h b (List.mem_of_find?_eq_some hfind) hname]

/-! ## Joins -/

theorem linkedOf_ok {ownTable name table column : String} {l : Linked}
    (h : linkedOf ds ownTable name table column = .ok l) :
    ∃ target, ds.byTable? table = some target ∧ l.join.field = name ∧
      l.join.resource = target.name ∧ l.join.table = table ∧ l.join.ownTable = ownTable := by
  unfold linkedOf at h
  cases htarget : ds.byTable? table with
  | none =>
    rw [htarget] at h
    contradiction
  | some target =>
    rw [htarget] at h
    obtain ⟨get, _, h⟩ := bind_eq_ok.mp h
    obtain ⟨list, _, h⟩ := bind_eq_ok.mp h
    rw [← Except.ok.inj h]
    exact ⟨target, rfl, rfl, rfl, rfl, rfl⟩

/-- Every join belongs to a foreign key, and is the join made for it. -/
theorem linkedAll_ok {table : String} {fields : List Field} {names : List String}
    {linked : List Linked} (h : linkedAll ds table fields names = .ok linked) {l : Linked}
    (hl : l ∈ linked) :
    ∃ f target column, fields.find? (·.name = l.join.field) = some f ∧
      f.kind = .foreignKey target column ∧
      linkedOf ds table l.join.field target column = .ok l := by
  induction names generalizing linked with
  | nil =>
    rw [← Except.ok.inj h] at hl
    exact absurd hl List.not_mem_nil
  | cons name names ih =>
    unfold linkedAll at h
    split at h
    · rename_i target column hkind
      obtain ⟨first, hfirst, h⟩ := bind_eq_ok.mp h
      obtain ⟨others, hothers, h⟩ := bind_eq_ok.mp h
      rw [← Except.ok.inj h] at hl
      rcases List.mem_cons.mp hl with rfl | hl
      · obtain ⟨f, hfind, hf⟩ := Option.map_eq_some_iff.mp hkind
        obtain ⟨_, _, hname, _⟩ := linkedOf_ok hfirst
        rw [hname]
        exact ⟨f, target, column, hfind, hf, hfirst⟩
      · exact ih hothers hl
    · exact ih h hl

/-- Every field of a resource is made from one that is declared. -/
theorem fieldsOf_made {owner : ResourceDecl} {f : Field} (hf : f ∈ fieldsOf ds d owner) :
    ∃ storage e, f = fieldOf ds owner storage e ∧ (e ∈ owner.fields ∨ e ∈ d.fields) := by
  unfold fieldsOf at hf
  rcases List.mem_append.mp hf with hf | hf
  · obtain ⟨e, he, rfl⟩ := List.mem_map.mp hf
    exact ⟨_, e, rfl, .inl he⟩
  · split at hf
    · exact absurd hf List.not_mem_nil
    · obtain ⟨e, he, rfl⟩ := List.mem_map.mp hf
      exact ⟨_, e, rfl, .inr (List.mem_of_mem_filter he)⟩

/-- A foreign key is a column, and declared to refer to what it stands for. -/
theorem fieldsOf_foreignKey {owner : ResourceDecl} {f : Field} (hf : f ∈ fieldsOf ds d owner)
    {table column : String} (hkind : f.kind = .foreignKey table column) :
    f.storage = .column ∧ f.decl.target? = some (table, column) := by
  obtain ⟨storage, e, rfl, _⟩ := fieldsOf_made hf
  have hkind : kindOf ds owner e storage = .foreignKey table column := hkind
  unfold kindOf at hkind
  split_ifs at hkind with hstorage hmany
  · split at hkind
    · contradiction
    · split at hkind <;> contradiction
  · refine ⟨not_not.mp hstorage, ?_⟩
    split at hkind
    · rename_i htarget
      rw [← (FieldKind.foreignKey.inj hkind).1, ← (FieldKind.foreignKey.inj hkind).2]
      exact htarget
    · split at hkind <;> contradiction

/-! ## Joins of a resource -/

variable {g : Registry} {r : Resource}

/-- The field of a join, and the resource that it leads to. -/
theorem join_field (hg : ds.resolve = .ok g) (hr : r ∈ g.resources) {j : Join}
    (hj : j ∈ r.joins) :
    ∃ f, r.field? j.field = some f ∧ f.isForeignKey = true ∧ f.isColumn = true := by
  obtain ⟨d, _, hd⟩ := mem_resolved hg hr
  obtain ⟨p, templates, hp, _, rfl⟩ := resource_ok_iff.mp hd
  obtain ⟨l, hl, rfl⟩ := List.mem_map.mp hj
  obtain ⟨f, target, column, hfind, hkind, _⟩ := linkedAll_ok hp.linked hl
  refine ⟨f, hfind, ?_, ?_⟩
  · unfold Field.isForeignKey
    rw [hkind]
  · unfold Field.isColumn
    rw [(fieldsOf_foreignKey (List.mem_of_find?_eq_some hfind) hkind).1]
    rfl

/-- Joins of one field are the same join. -/
theorem join_unique (hg : ds.resolve = .ok g) (hr : r ∈ g.resources) {i j : Join}
    (hi : i ∈ r.joins) (hj : j ∈ r.joins) (h : i.field = j.field) : i = j := by
  obtain ⟨d, _, hd⟩ := mem_resolved hg hr
  obtain ⟨p, templates, hp, _, rfl⟩ := resource_ok_iff.mp hd
  obtain ⟨l, hl, rfl⟩ := List.mem_map.mp hi
  obtain ⟨m, hm, rfl⟩ := List.mem_map.mp hj
  obtain ⟨f, target, column, hfind, hkind, hl⟩ := linkedAll_ok hp.linked hl
  obtain ⟨f', target', column', hfind', hkind', hm⟩ := linkedAll_ok hp.linked hm
  rw [h, hfind'] at hfind
  obtain rfl := Option.some.inj hfind
  rw [hkind'] at hkind
  obtain ⟨rfl, rfl⟩ := FieldKind.foreignKey.inj hkind
  rw [h, hm] at hl
  rw [Except.ok.inj hl]

/-- A join is found under the name of its field. -/
theorem join?_of_mem (hg : ds.resolve = .ok g) (hr : r ∈ g.resources) {j : Join}
    (hj : j ∈ r.joins) : r.join? j.field = some j :=
  find?_of_unique hj fun _ hi h => join_unique hg hr hi hj h

/-- Joins start from the table of the resource. -/
theorem join_ownTable (hg : ds.resolve = .ok g) (hr : r ∈ g.resources) {j : Join}
    (hj : j ∈ r.joins) : j.ownTable = r.table := by
  obtain ⟨d, _, hd⟩ := mem_resolved hg hr
  obtain ⟨p, templates, hp, _, rfl⟩ := resource_ok_iff.mp hd
  obtain ⟨l, hl, rfl⟩ := List.mem_map.mp hj
  obtain ⟨_, _, _, _, _, hl⟩ := linkedAll_ok hp.linked hl
  obtain ⟨_, _, _, _, _, hown⟩ := linkedOf_ok hl
  exact hown

/-- A join that is found is the join of the field. -/
theorem join?_some {view : TableView} {name : String} {j : Join} (h : view.join? name = some j) :
    j ∈ view.joins ∧ j.field = name :=
  ⟨List.mem_of_find?_eq_some h, by simpa using List.find?_some h⟩

/-- The row that shows a field is read through the join of the field. -/
theorem joinOf?_eq (hg : ds.resolve = .ok g) (hr : r ∈ g.resources) {name : String} {f : Field}
    (hf : r.field? name = some f) :
    Selection.joinOf? r.toTableView f = r.join? name := by
  have hname := TableView.field?_name hf
  unfold Selection.joinOf?
  rw [hname]
  cases hjoin : r.join? name with
  | none => simp
  | some j =>
    obtain ⟨hj, hfield⟩ := join?_some hjoin
    obtain ⟨f', hf', hkey, hcolumn⟩ := join_field hg hr hj
    rw [hfield, hf] at hf'
    obtain rfl := Option.some.inj hf'
    simp [hkey, hcolumn]

/-! ## Resources by name -/

theorem names_compiled {ds' : Declarations} {rs : List Resource}
    (h : List.Forall₂ (fun d r => resource ds d = .ok r) ds' rs) :
    rs.map (·.name) = ds'.map (·.name) := by
  induction h with
  | nil => rfl
  | cons hd _ ih => rw [List.map_cons, List.map_cons, resource_name hd, ih]

/-- Resources are found under their names. -/
theorem byName?_of_mem (hg : ds.resolve = .ok g) (hr : r ∈ g.resources) :
    g.byName? r.name = some r := by
  obtain ⟨hcheck, _, hrs⟩ := resolve_ok_iff.mp hg
  have hnodup := Declarations.check_names hcheck
  rw [← names_compiled hrs] at hnodup
  exact find?_of_unique hr fun _ hr' h => List.inj_on_of_nodup_map hnodup hr' hr h

/-- The resource of a join is compiled from the declaration that owns its table. -/
theorem join_target (hg : ds.resolve = .ok g) (hr : r ∈ g.resources) {j : Join}
    (hj : j ∈ r.joins) :
    ∃ target l, ds.byTable? j.table = some target ∧ resource ds target = .ok l ∧
      g.byName? j.resource = some l := by
  obtain ⟨d, _, hd⟩ := mem_resolved hg hr
  obtain ⟨p, templates, hp, _, rfl⟩ := resource_ok_iff.mp hd
  obtain ⟨m, hm, rfl⟩ := List.mem_map.mp hj
  obtain ⟨_, table, column, _, _, hm⟩ := linkedAll_ok hp.linked hm
  obtain ⟨target, htarget, _, hresource, rfl, _⟩ := linkedOf_ok hm
  obtain ⟨_, _, hrs⟩ := resolve_ok_iff.mp hg
  obtain ⟨l, hl, hcompiled⟩ :=
    partner_of_mem hrs.flip (Declarations.byTable?_some htarget).1
  have hfound := byName?_of_mem hg hl
  rw [resource_name hcompiled, ← hresource] at hfound
  exact ⟨target, l, htarget, hcompiled, hfound⟩

end Compile

end RowServe
