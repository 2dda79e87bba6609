import RowServe.Proofs.Declaration.Checked
import RowServe.Proofs.Resource.FilterKeys
import RowServe.Proofs.Resource.Uses
import RowServe.Service.Admission

/-!
# What an accepted payload writes

An insert and an update take the columns that a payload has a value for. Only names of
fields that are declared writable are accepted, but nothing of the kind holds for the keys
of an object.

Results:

* `writable_of_accepted`: an accepted name is that of a writable field.
* `insertion_use`, `assignment_use`: what is bound for a column.
* `find?_packed`: only the column of a nested extension is filled otherwise.
-/

namespace RowServe

/-- The resource whose table a resource is stored in. -/
def Declarations.owner (ds : Declarations) (d : ResourceDecl) : ResourceDecl :=
  match d.info.extendsOn with
  | none => d
  | some ext => (ds.byName? ext.parent).getD d

namespace Compile

variable {ds : Declarations} {d : ResourceDecl} {p : Parts} {r : Resource}

theorem owner_of_parentOf {parent : Option ResourceDecl} (h : parentOf ds d = .ok parent) :
    parent.getD d = ds.owner d := by
  unfold parentOf at h
  unfold Declarations.owner
  cases hext : d.info.extendsOn with
  | none =>
    rw [hext] at h
    rw [← Except.ok.inj h]
    rfl
  | some ext =>
    rw [hext] at h
    dsimp only at h ⊢
    cases hname : ds.byName? ext.parent with
    | none =>
      rw [hname] at h
      contradiction
    | some q =>
      rw [hname] at h
      rw [← Except.ok.inj h]

theorem Parts.Valid.owner_eq (h : p.Valid ds d) : p.owner d = ds.owner d :=
  owner_of_parentOf h.parent

/-- The parent of a nested extension is the owner of its table. -/
theorem parent_eq (h : p.Valid ds d) {ext : Extension} (hext : d.info.extendsOn = some ext) :
    p.parent = some (ds.owner d) ∧ ext.parent = (ds.owner d).name := by
  have hparent := h.parent
  unfold parentOf at hparent
  unfold Declarations.owner
  rw [hext] at hparent ⊢
  dsimp only at hparent ⊢
  cases hname : ds.byName? ext.parent with
  | none =>
    rw [hname] at hparent
    contradiction
  | some q =>
    rw [hname] at hparent
    have hfound : q.name = ext.parent := by simpa using List.find?_some hname
    exact ⟨(Except.ok.inj hparent).symm, hfound.symm⟩

/-! ## Contracts for payloads -/

theorem writeContract_ok {complete : Bool} {nested : List (String × Contract)}
    {fields : List Field} {c : Contract} (h : writeContract complete nested fields = .ok c)
    {e : FieldSpec × Shape} (he : e ∈ c.fields) : ∃ f ∈ fields, f.name = e.1.name := by
  obtain ⟨specs, hspecs, rfl⟩ := map_eq_ok.mp h
  obtain ⟨f, hf, hspec⟩ := partner_of_mem (mapM_eq_ok.mp hspecs) he
  obtain ⟨e', he', rfl⟩ := map_eq_ok.mp hspec
  refine ⟨f, hf, ?_⟩
  have hname := fieldOf_name he'
  dsimp only
  split
  · exact hname.symm
  · exact hname.symm

/-- A contract for writable fields has no others. -/
theorem writeContract_writable {complete : Bool} {nested : List (String × Contract)}
    {fields : List Field} {kidColumn : Option String} {test : Field → Bool} {c : Contract}
    (h : writeContract complete nested ((fields.filter fun f =>
      !f.decl.readOnly && kidColumn ≠ some f.name).filter test) = .ok c)
    {e : FieldSpec × Shape} (he : e ∈ c.fields) :
    ∃ f ∈ fields, f.name = e.1.name ∧ f.decl.readOnly = false ∧ kidColumn ≠ some f.name := by
  obtain ⟨f, hf, hname⟩ := writeContract_ok h he
  obtain ⟨hf, hwrite⟩ := List.mem_filter.mp (List.mem_of_mem_filter hf)
  simp only [Bool.and_eq_true, Bool.not_eq_true', decide_eq_true_eq] at hwrite
  exact ⟨f, hf, hname, hwrite⟩

/-- Payloads are checked by writable fields, without the column of a nested extension. -/
theorem contractsOf_writes {parent : Option ResourceDecl} {pk : FieldDecl} {pkFromSession : Bool}
    {lists : Lists} {fields : List Field} {linked : List Linked}
    {nested : List (String × Contract)} {cs : Contracts}
    (h : contractsOf d parent pk pkFromSession lists fields linked nested = .ok cs) {c : Contract}
    (hc : c ∈ [cs.post, cs.update]) {e : FieldSpec × Shape} (he : e ∈ c.fields) :
    ∃ f ∈ fields, f.name = e.1.name ∧ f.decl.readOnly = false ∧
      d.info.extendsOn.map (·.column) ≠ some f.name := by
  unfold contractsOf at h
  simp only [bind_eq_ok] at h
  obtain ⟨post, hpost, get, _, list, _, delete, _, update, hupdate, hrest⟩ := h
  have hcs : cs.post = post ∧ cs.update = update := by
    cases parent <;>
      · obtain ⟨child, _, he⟩ := bind_eq_ok.mp hrest
        rw [← Except.ok.inj he]
        exact ⟨rfl, rfl⟩
  simp only [hcs.1, hcs.2, List.mem_cons, List.not_mem_nil, or_false] at hc
  rcases hc with rfl | rfl
  · exact writeContract_writable hpost he
  · exact writeContract_writable hupdate he

/-- A name that is accepted is that of a writable field. -/
theorem writable_of_accepted (hr : resource ds d = .ok r) {c : Contract}
    (hc : c ∈ [r.contracts.post, r.contracts.update]) {given valid : Object}
    (h : c.validate given = .ok valid) {n : String} (hn : Keyed.has n given = true) :
    ∃ f ∈ r.fields, f.name = n ∧ f.decl.readOnly = false ∧ r.kidColumn ≠ some n := by
  obtain ⟨p, templates, hp, _, rfl⟩ := resource_ok_iff.mp hr
  obtain ⟨w, hw⟩ := Option.isSome_iff_exists.mp (Contract.validate_keys h hn)
  obtain ⟨e, he, rfl, _⟩ := Contract.validate_source h hw
  obtain ⟨f, hf, hname, hwrite, hkid⟩ := contractsOf_writes hp.contracts hc he
  exact ⟨f, hf, hname, hwrite, hname ▸ hkid⟩

/-! ## Declared fields -/

/-- The fields of a resource are those of the owner of its table, which are not kept inside
    documents, and those that only the resource has, which are. -/
theorem field_declared (hr : resource ds d = .ok r) {f : Field} (hf : f ∈ r.fields) :
    f.decl ∈ (ds.owner d).fields ∨
      (f.decl ∈ ownFields d (ds.owner d) ∧ f.isColumn = false) := by
  obtain ⟨p, templates, hp, _, rfl⟩ := resource_ok_iff.mp hr
  have hf : f ∈ fieldsOf ds d (p.owner d) := hf
  rw [hp.owner_eq] at hf
  unfold fieldsOf at hf
  rcases List.mem_append.mp hf with hf | hf
  · obtain ⟨e, he, rfl⟩ := List.mem_map.mp hf
    exact .inl he
  · split at hf
    · exact absurd hf List.not_mem_nil
    · obtain ⟨e, he, rfl⟩ := List.mem_map.mp hf
      exact .inr ⟨he, rfl⟩

theorem mem_ownFields {kid parent : ResourceDecl} {e : FieldDecl} :
    e ∈ ownFields kid parent ↔ e ∈ kid.fields ∧ ∀ f ∈ parent.fields, f.name ≠ e.name := by
  simp [ownFields, ResourceDecl.hasField, ResourceDecl.field?]

/-- The fields that only a nested extension has. -/
theorem isChildField_iff (hr : resource ds d = .ok r) {n : String} :
    r.isChildField n = true ↔ ∃ e ∈ ownFields d (ds.owner d), e.name = n := by
  obtain ⟨p, templates, hp, _, rfl⟩ := resource_ok_iff.mp hr
  show (if p.parent.isSome then (ownFields d (p.owner d)).map (·.name) else []).contains n = true ↔
    _
  cases hext : d.info.extendsOn with
  | none =>
    have howner : ds.owner d = d := by
      unfold Declarations.owner
      rw [hext]
    rw [hp.parent_none hext, howner]
    simp only [Option.isSome_none, Bool.false_eq_true, if_false, List.contains_nil, false_iff,
      not_exists, not_and]
    exact fun e he _ => (mem_ownFields.mp he).2 e (mem_ownFields.mp he).1 rfl
  | some ext =>
    rw [(parent_eq hp hext).1, hp.owner_eq]
    simp

/-- A column is none of the fields that only a nested extension has. -/
theorem column_not_child (hr : resource ds d = .ok r) {f : Field} (hf : f ∈ r.fields)
    (hcolumn : f.isColumn = true) : r.isChildField f.name = false := by
  rw [Bool.eq_false_iff, Ne, isChildField_iff hr]
  rintro ⟨e, he, hname⟩
  rcases field_declared hr hf with hdecl | ⟨_, hno⟩
  · exact (mem_ownFields.mp he).2 f.decl hdecl hname.symm
  · rw [hcolumn] at hno
    contradiction

end Compile

/-! ## Bound values -/

namespace Change

open RowServe.Filter (mem_useOf useOf)
open Sql (Param)

/-- A use that stands for the value a payload has for a column. An object is bound as it is. -/
def Stores (view : TableView) (payload : Object) (u : Use) : Prop :=
  ∃ f ∈ view.fields, f.isColumn = true ∧ u.origin = .payload f.name ∧
    ∃ v, payload.find? f.name = some v ∧ ∀ entries, v = .obj entries → u.value = .json v

variable {view : TableView} {payload : Object} {u : Use}

/-- A changed column stores its value, if an object is bound as it is. -/
theorem stores_changed {skip : Option String} {e : Field × Json}
    (he : e ∈ changed payload skip (view.fields.filter Field.isColumn)) {name : String}
    {param : Json → Param × Option String}
    (hparam : ∀ entries, (param (.obj entries)).1 = .json (.obj entries))
    (hu : u ∈ useOf (.payload e.1.name) name param e.2) : Stores view payload u := by
  obtain ⟨hf, hv⟩ := mem_changed he
  obtain ⟨hf, hcolumn⟩ := List.mem_filter.mp hf
  rw [mem_useOf hu]
  refine ⟨e.1, hf, hcolumn, rfl, e.2, hv, ?_⟩
  rintro entries hobj
  rw [hobj]
  exact hparam entries

theorem insertion_use {autoincrement : Option String}
    (h : u ∈ insertionUses view autoincrement payload) : Stores view payload u := by
  obtain ⟨e, he, hu⟩ := List.mem_flatMap.mp h
  exact stores_changed he (fun _ => rfl) hu

theorem assignment_use {op : Operation} {kidColumn : Option String}
    (h : u ∈ assignmentUses view payload op kidColumn) : Stores view payload u := by
  obtain ⟨e, he, hu⟩ := List.mem_flatMap.mp h
  refine stores_changed he (fun entries => ?_) hu
  unfold assignedParam
  split_ifs <;> rfl

end Change

namespace Serving

/-- Only the column of a nested extension is filled otherwise than by its own name. -/
theorem find?_packed {r : Resource} {payload : Object} {c : String}
    (hkid : r.kidColumn ≠ some c) (hchild : r.isChildField c = false) :
    (packed r payload).find? c = payload.find? c := by
  unfold packed
  cases hcolumn : r.kidColumn with
  | none => rfl
  | some column =>
    have hne : c ≠ column := fun h => hkid (h ▸ hcolumn)
    have hothers : Keyed.find? c (payload.filter fun e => !r.isChildField e.1) =
        payload.find? c := by
      rw [Keyed.find?_filter payload fun k => !r.isChildField k]
      simp [hchild]
    dsimp only
    split_ifs
    · exact hothers
    · rw [Keyed.find?_insert, if_neg hne, hothers]

end Serving

end RowServe
