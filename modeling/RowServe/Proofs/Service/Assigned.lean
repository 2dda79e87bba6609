import RowServe.Proofs.Resource.Documents
import RowServe.Proofs.Resource.Identified
import RowServe.Proofs.Service.ReadOnly

/-!
# Columns that an update sets

An update sets the columns that its payload has values for, once the fields of a nested
extension are packed into their column. The contract for updates leaves out what is read-only,
the key, what is excluded, and the column of the extension itself. So nothing else is set, and
the document for the column of the extension has only fields that it adds.

Results:

* `updatable_of_accepted`: a name that an update is accepted with.
* `has_of_packed`, `packed_document`: the names and the document in a packed payload.
* `assigned_iff`: what an accepted update sets.
-/

namespace RowServe

open RowServe.Filter (bindAll filterUses)
open Sql (Param)

/-! ## What may be updated -/

namespace Resource

variable (r : Resource)

/-- Updates may give a value for the name: no field of the name is read-only, and updates do not
    leave it out. -/
structure Updatable (n : String) : Prop where
  writable : ∀ f ∈ r.fields, f.name = n → f.decl.readOnly = false
  included : n ∉ r.excludeFromUpdates

/-- A document with nothing but fields that the extension adds, and that may be updated. -/
def OwnDocument (v : Param) : Prop :=
  ∃ es : Object, v = .json (.obj es) ∧
    ∀ k, Keyed.has k es = true → r.isChildField k = true ∧ r.Updatable k

end Resource

namespace Compile

variable {ds : Declarations} {d : ResourceDecl} {g : Registry} {r : Resource}

/-- The contract for updates. -/
theorem contractsOf_update {parent : Option ResourceDecl} {pk : FieldDecl} {pkFromSession : Bool}
    {lists : Lists} {fields : List Field} {linked : List Linked}
    {nested : List (String × Contract)} {cs : Contracts}
    (h : contractsOf d parent pk pkFromSession lists fields linked nested = .ok cs) :
    writeContract false nested ((fields.filter fun f =>
      !f.decl.readOnly && d.info.extendsOn.map (·.column) ≠ some f.name).filter fun f =>
        !f.decl.primaryKey && !lists.excludeFromUpdates.contains f.name) = .ok cs.update := by
  unfold contractsOf at h
  simp only [bind_eq_ok] at h
  obtain ⟨post, _, get, _, list, _, delete, _, update, hupdate, hrest⟩ := h
  cases parent <;>
    · obtain ⟨child, _, he⟩ := bind_eq_ok.mp hrest
      rw [← Except.ok.inj he]
      exact hupdate

/-- A name that an update is accepted with is that of a field that may be updated. It is no key,
    and not the column of the extension. -/
theorem updatable_of_accepted (hr : resource ds d = .ok r) {given valid : Object}
    (h : r.contracts.update.validate given = .ok valid) {n : String}
    (hn : Keyed.has n valid = true) :
    r.kidColumn ≠ some n ∧ n ∉ r.excludeFromUpdates ∧
      ∃ f ∈ r.fields, f.name = n ∧ f.decl.readOnly = false ∧ f.decl.primaryKey = false := by
  obtain ⟨p, templates, hp, _, rfl⟩ := resource_ok_iff.mp hr
  obtain ⟨w, hw⟩ := Option.isSome_iff_exists.mp hn
  obtain ⟨e, he, rfl, _⟩ := Contract.validate_source h hw
  obtain ⟨f, hf, hname⟩ := writeContract_ok (contractsOf_update hp.contracts) he
  obtain ⟨hwrite, hupdate⟩ := List.mem_filter.mp hf
  obtain ⟨hf, hwrite⟩ := List.mem_filter.mp hwrite
  simp only [Bool.and_eq_true, Bool.not_eq_true', decide_eq_true_eq] at hwrite hupdate
  rw [← hname]
  refine ⟨hwrite.2, fun hmem => ?_, f, hf, rfl, hwrite.1, hupdate.1⟩
  have hexcluded : (p.lists d).excludeFromUpdates.contains f.name = true :=
    List.contains_iff_mem.mpr hmem
  rw [hexcluded] at hupdate
  exact Bool.noConfusion hupdate.2

/-- The primary key is a field. -/
theorem key_field (hr : resource ds d = .ok r) :
    ∃ f ∈ r.fields, f.name = r.pk ∧ f.decl.primaryKey = true := by
  obtain ⟨p, templates, hp, _, rfl⟩ := resource_ok_iff.mp hr
  have hprimary : p.pk.primaryKey = true := by simpa using List.find?_some hp.pk
  exact ⟨_, List.mem_append_left _ (List.mem_map_of_mem (List.mem_of_find?_eq_some hp.pk)), rfl,
    hprimary⟩

/-- The key is none of the fields that only a nested extension has. -/
theorem key_not_child (hr : resource ds d = .ok r) : r.isChildField r.pk = false := by
  rw [Bool.eq_false_iff, Ne, isChildField_iff hr]
  rintro ⟨e, he, hname⟩
  obtain ⟨p, templates, hp, _, rfl⟩ := resource_ok_iff.mp hr
  have howner : p.pk ∈ (ds.owner d).fields := hp.owner_eq ▸ List.mem_of_find?_eq_some hp.pk
  exact (mem_ownFields.mp he).2 p.pk howner hname.symm

/-- The name of a column is none of the fields that only a nested extension has. -/
theorem columnName_not_child (hr : resource ds d = .ok r) {c : String} (hc : c ∈ r.columnNames) :
    r.isChildField c = false := by
  obtain ⟨f, hf, rfl⟩ := List.mem_map.mp hc
  exact column_not_child hr (List.mem_filter.mp hf).1 (List.mem_filter.mp hf).2

/-- A stored field of the owner of the table is a column. -/
theorem stored_columnName (hr : resource ds d = .ok r) {e : FieldDecl}
    (he : e ∈ (ds.owner d).fields) (hstored : e.sql.isSome = true) : e.name ∈ r.columnNames := by
  obtain ⟨p, templates, hp, _, rfl⟩ := resource_ok_iff.mp hr
  rw [← hp.owner_eq] at he
  have hfield : fieldOf ds (p.owner d) (storageOf e) e ∈ p.fields ds d :=
    List.mem_append_left _ (List.mem_map_of_mem he)
  have hcolumn : (fieldOf ds (p.owner d) (storageOf e) e).isColumn = true := by
    unfold Field.isColumn fieldOf storageOf
    rw [if_pos hstored]
    rfl
  exact List.mem_map_of_mem (f := Field.name) (List.mem_filter.mpr ⟨hfield, hcolumn⟩)

/-- The column of an extension is stored. -/
theorem kidColumn_stored (hcheck : ds.check = .ok ()) (hd : d ∈ ds) (hr : resource ds d = .ok r)
    {c : String} (hkid : r.kidColumn = some c) : c ∈ r.columnNames := by
  have hext : r.extendsOn = d.info.extendsOn := by
    obtain ⟨p, templates, hp, _, rfl⟩ := resource_ok_iff.mp hr
    rfl
  obtain ⟨ext, hsome, rfl⟩ := Option.map_eq_some_iff.mp hkid
  rw [hext] at hsome
  obtain ⟨parent, hparent, _, e, he, hname, hstored⟩ :=
    Declarations.check_extension hcheck hd hsome
  have howner : ds.owner d = parent := by
    rw [Declarations.owner, hsome]
    dsimp only
    rw [hparent]
    rfl
  exact hname ▸ stored_columnName hr (howner.symm ▸ he) hstored

end Compile

/-! ## Packed payloads -/

namespace Serving

variable {r : Resource} {payload : Object} {c : String}

/-- The part of a payload with the fields that the extension adds. -/
def ownPart (r : Resource) (payload : Object) : Object :=
  payload.filter fun e => r.isChildField e.1

theorem find?_ownPart (k : String) :
    (ownPart r payload).find? k = if r.isChildField k then payload.find? k else none :=
  Keyed.find?_filter payload r.isChildField k

/-- The document for the column of an extension has the fields that the extension adds. -/
theorem packed_document (hkid : r.kidColumn = some c) (hchild : r.isChildField c = false) :
    (packed r payload).find? c =
      if ownPart r payload = [] then payload.find? c else some (.obj (ownPart r payload)) := by
  unfold packed
  rw [hkid]
  dsimp only
  rw [show (payload.filter fun e => r.isChildField e.1) = ownPart r payload from rfl]
  by_cases hown : ownPart r payload = []
  · rw [if_pos hown, if_pos (by simp [hown]), Keyed.find?_filter payload fun k => !r.isChildField k]
    simp [hchild]
  · rw [if_neg hown, if_neg (by simpa using hown), Keyed.find?_insert, if_pos rfl]

/-- Packing adds no name but that of the column. -/
theorem has_of_packed (h : Keyed.has c (packed r payload) = true) :
    r.kidColumn = some c ∨ Keyed.has c payload = true := by
  unfold packed at h
  cases hkid : r.kidColumn with
  | none =>
    rw [hkid] at h
    exact .inr h
  | some column =>
    rw [hkid] at h
    dsimp only at h
    have hothers (h : Keyed.has c (payload.filter fun e => !r.isChildField e.1) = true) :
        Keyed.has c payload = true :=
      ((Keyed.has_filter payload (fun k => !r.isChildField k) c).mp h).2
    split_ifs at h
    · exact .inr (hothers h)
    · rcases (Keyed.has_insert _ _ _ _).mp h with rfl | h
      · exact .inl rfl
      · exact .inr (hothers h)

/-- A field that the extension adds is not left outside the document. -/
theorem packed_child (hkid : r.kidColumn = some c) {k : String} (hchild : r.isChildField k = true)
    (hne : k ≠ c) : (packed r payload).find? k = none := by
  have hothers : Keyed.find? k (payload.filter fun e => !r.isChildField e.1) = none := by
    rw [Keyed.find?_filter payload fun k => !r.isChildField k]
    simp [hchild]
  unfold packed
  rw [hkid]
  dsimp only
  split_ifs
  · exact hothers
  · rw [Keyed.find?_insert, if_neg hne, hothers]

end Serving

/-! ## What is set -/

/-- An update sets the columns that its payload has values for, and only those that may be set.
    The document for the column of an extension has only fields of the extension, unless the
    filter binds something else under the name of this column. -/
structure Resource.Assigns (r : Resource) (op : Operation) (filter payload : Object) : Prop where
  columns : ∀ c, c ∈ (r.assignmentsBehind op filter payload).map (·.column) ↔
    c ∈ r.columnNames ∧ Keyed.has c payload = true
  allowed : ∀ c ∈ (r.assignmentsBehind op filter payload).map (·.column),
    c ≠ r.pk ∧ (r.kidColumn ≠ some c → r.Updatable c)
  document : ∀ c, r.kidColumn = some c →
    c ∈ (r.assignmentsBehind op filter payload).map (·.column) →
      ∃ v, (∀ w, Sql.Sets (r.assignmentsBehind op filter payload)
          (bindAll [] ((Call.update op filter payload).uses r)).params c w ↔ w = v) ∧
        (r.OwnDocument v ↔
          ∀ u, (filterUses r.toTableView filter).find? (·.name = "u_" ++ c) = some u →
            r.OwnDocument u.value)

namespace Serving

variable {ds : Declarations} {g : Registry} {s : Serving}

/-- A name of an accepted payload may be updated, where all names of fields are different. -/
theorem updatable_of_payload (hg : ds.resolve = .ok g) (hr : s.resource ∈ g.resources)
    (hnames : (s.resource.fields.map Field.name).Nodup) {body : Json} {x : UpdateInput}
    (hx : s.updateInput body = .ok x) {n : String} (hn : Keyed.has n x.payload = true) :
    s.resource.kidColumn ≠ some n ∧ n ≠ s.resource.pk ∧ s.resource.Updatable n := by
  obtain ⟨d, _, hd⟩ := Compile.mem_resolved hg hr
  obtain ⟨_, _, given, _, _, _, _, hvalid⟩ := updateInput_ok_iff.mp hx
  obtain ⟨hkid, hincluded, f, hf, hname, hwrite, hprimary⟩ :=
    Compile.updatable_of_accepted hd hvalid hn
  -- the field of the name is the only one
  have honly : ∀ f' ∈ s.resource.fields, f'.name = n → f' = f := fun f' hf' hname' =>
    List.inj_on_of_nodup_map hnames hf' hf (hname'.trans hname.symm)
  refine ⟨hkid, fun hpk => ?_, fun f' hf' hname' => honly f' hf' hname' ▸ hwrite, hincluded⟩
  obtain ⟨key, hkey, hkeyname, hkeyprimary⟩ := Compile.key_field hd
  obtain rfl := honly key hkey (hkeyname.trans hpk.symm)
  rw [hprimary] at hkeyprimary
  exact Bool.noConfusion hkeyprimary

theorem assigns_of_accepted (hg : ds.resolve = .ok g) (hr : s.resource ∈ g.resources)
    (hnames : (s.resource.fields.map Field.name).Nodup)
    (hkey : s.resource.kidColumn ≠ some s.resource.pk) {body : Json} {x : UpdateInput}
    (hx : s.updateInput body = .ok x) (op : Operation) :
    s.resource.Assigns op x.select (packed s.resource x.payload) := by
  have hupdatable {n : String} (hn : Keyed.has n x.payload = true) :=
    updatable_of_payload hg hr hnames hx hn
  have hnotkey {c : String} (hc : Keyed.has c (packed s.resource x.payload) = true) :
      c ≠ s.resource.pk := by
    rcases has_of_packed hc with hkid | hhas
    · exact fun hpk => hkey (hpk ▸ hkid)
    · exact (hupdatable hhas).2.1
  have hcolumns (c : String) : c ∈ (s.resource.assignmentsBehind op x.select
      (packed s.resource x.payload)).map (·.column) ↔
        c ∈ s.resource.columnNames ∧ Keyed.has c (packed s.resource x.payload) = true := by
    rw [Resource.assigned_columns, List.mem_filter, Bool.and_eq_true, decide_eq_true_eq]
    refine and_congr_right fun _ => and_iff_right_of_imp fun hc hpk => ?_
    exact hnotkey hc (Option.some.inj hpk).symm
  refine ⟨hcolumns, fun c hc => ?_, fun c hkid hc => ?_⟩
  · obtain ⟨_, hhas⟩ := (hcolumns c).mp hc
    exact ⟨hnotkey hhas, fun hne => (hupdatable ((has_of_packed hhas).resolve_left hne)).2.2⟩
  · obtain ⟨hstored, hhas⟩ := (hcolumns c).mp hc
    obtain ⟨d, _, hd⟩ := Compile.mem_resolved hg hr
    have hchild : s.resource.isChildField c = false := Compile.columnName_not_child hd hstored
    -- the payload itself has nothing for the column, so the document is all of its own fields
    have hnone : x.payload.find? c = none := by
      by_contra hsome
      exact (hupdatable (Option.isSome_iff_ne_none.mpr hsome)).1 hkid
    have hdocument : (packed s.resource x.payload).find? c = _ := packed_document hkid hchild
    have hown : ownPart s.resource x.payload ≠ [] := by
      intro hnil
      rw [if_pos hnil, hnone] at hdocument
      rw [Keyed.has, hdocument] at hhas
      contradiction
    rw [if_neg hown] at hdocument
    refine ⟨s.resource.document x.select c (ownPart s.resource x.payload),
      fun w => Resource.update_sets_iff op hdocument hstored (hnotkey hhas), ?_⟩
    unfold Resource.document
    cases (filterUses s.resource.toTableView x.select).find? (·.name = "u_" ++ c) with
    | some u => simp
    | none =>
      refine iff_of_true ⟨_, rfl, fun k hk => ?_⟩ fun u hu => by contradiction
      obtain ⟨hchild, hhas⟩ := (Keyed.has_filter x.payload s.resource.isChildField k).mp hk
      exact ⟨hchild, (hupdatable hhas).2.2⟩

/-- Without hooks an accepted update sets the columns that its packed payload has values for, and
    only those that may be set. The document for the column of an extension has only fields of the
    extension, exactly if this is so for what the filter binds under the name of the column, if it
    binds anything. -/
theorem assigned_iff (hg : ds.resolve = .ok g) (hr : s.resource ∈ g.resources)
    (hnames : (s.resource.fields.map Field.name).Nodup)
    (hkey : s.resource.kidColumn ≠ some s.resource.pk) (plain : s.hooks? = none) {body : Json}
    {x : UpdateInput} (hx : s.updateInput body = .ok x) (op : Operation) :
    s.resource.Assigns op x.select (packed s.resource x.payload) ∧
      ∀ cmd : Sql.Command, (s.update op body).Performs (ServiceAction.store (.run cmd)) →
        (Call.update op x.select (packed s.resource x.payload)).Rendered s.resource cmd := by
  refine ⟨assigns_of_accepted hg hr hnames hkey hx op, fun cmd hcmd => ?_⟩
  obtain ⟨_, x', hx', hcommand⟩ := (update_runs plain).mp hcmd
  obtain rfl : x = x' := Except.ok.inj (hx.symm.trans hx')
  exact Call.rendered hcommand

/-- A new city for the operator with the first key. -/
def newCity : Json := updateBody byKey [("city", .str "Oslo")]

/-- The city of an operator is set within the details. -/
theorem assigned_iff_staff :
    ∃ g, Declarations.staff.resolve = .ok g ∧ ∃ r ∈ g.resources, r.kidColumn = some "details" ∧
      ∃ x, (openly g r).updateInput newCity = .ok x ∧
        (r.assignmentsBehind .patch x.select (packed r x.payload)).map (·.column) = ["details"] ∧
        r.Assigns .patch x.select (packed r x.payload) := by
  obtain ⟨g, hg, r, hr, hP⟩ := Compile.exists_resolved Declarations.staff
    (fun r => r.kidColumn = some "details" ∧ (r.fields.map Field.name).Nodup ∧
      r.kidColumn ≠ some r.pk ∧
      (r.checkFilter r.contracts.get byKey).toOption = some byKey ∧
      (r.contracts.update.validate [("city", .str "Oslo")]).toOption =
        some [("city", .str "Oslo")] ∧
      (r.assignmentsBehind .patch byKey (packed r [("city", .str "Oslo")])).map (·.column) =
        ["details"])
    (by decide +kernel) (by decide +kernel)
  obtain ⟨hkid, hnames, hkey, hfilter, hpayload, hcolumns⟩ := of_decide_eq_true hP
  have hx : (openly g r).updateInput newCity = .ok ⟨byKey, [("city", .str "Oslo")]⟩ :=
    updateInput_ok_iff.mpr
      ⟨_, _, _, rfl, rfl, rfl, toOption_eq_some.mp hfilter, toOption_eq_some.mp hpayload⟩
  exact ⟨g, hg, r, hr, hkid, _, hx, hcolumns,
    (assigned_iff (s := openly g r) hg hr hnames hkey rfl hx .patch).1⟩

/-! ## A document that the filter gives -/

/-- Actors with two documents. Operators have a city in one, drivers have a phone in the other,
    and this one is called like the first with the mark of a new value. -/
def fleet : Declarations :=
  [{ ResourceDecl.plain "Actor" "actor"
      [.key "id", .plain "details" .dict (some (.simple "jsonb")),
        .plain "u_details" .dict (some (.simple "jsonb"))] with
      info := { ResourceMeta.plain with
        route := some "actor"
        getBy := some ["id", "u_details"] } },
    ⟨"Operator", none, [.plain "city" .string none],
      { ResourceMeta.plain with
        route := some "operator"
        extendsOn := some ⟨"Actor", "details"⟩ }⟩,
    ⟨"Driver", none, [.plain "phone" .string none],
      { ResourceMeta.plain with
        route := some "driver"
        extendsOn := some ⟨"Actor", "u_details"⟩ }⟩]

/-- The operators that are drivers with a phone. -/
def byPhone : Object := [("u_details", .obj [("phone", .str "1")])]

/-- The city of operators. -/
def city : Object := [("city", .str "Oslo")]

/-- An update of the city of operators, who are found by their phone as drivers, puts the phone
    into the document of their own fields, and the city is lost. -/
theorem foreign_document :
    ∃ g, fleet.resolve = .ok g ∧ ∃ r ∈ g.resources, (r.fields.map Field.name).Nodup ∧
      r.kidColumn = some "details" ∧ r.pk = "id" ∧ r.isChildField "phone" = false ∧
      ∃ cmd, ((openly g r).update .patch (updateBody byPhone city)).Performs
          (ServiceAction.store (.run cmd)) ∧
        cmd.params = [.json (.obj [("phone", .str "1")])] ∧
        Sql.Sets (r.assignmentsBehind .patch byPhone (packed r city)) cmd.params "details"
          (.json (.obj [("phone", .str "1")])) := by
  obtain ⟨g, hg, r, hr, hP⟩ := Compile.exists_resolved fleet
    (fun r => (r.fields.map Field.name).Nodup ∧ r.kidColumn = some "details" ∧ r.pk = "id" ∧
      r.isChildField "phone" = false ∧ r.allows .patch = true ∧ r.permissions = none ∧
      (r.checkFilter r.contracts.get byPhone).toOption = some byPhone ∧
      (r.contracts.update.validate city).toOption = some city ∧
      (r.updateCommand .patch byPhone (packed r city)).toOption.map (·.params) =
        some [.json (.obj [("phone", .str "1")])] ∧
      (r.assignmentsBehind .patch byPhone (packed r city)).map
          (fun a => (a.column, a.value.placeholders.map (·.position))) = [("details", [1])])
    (by decide +kernel) (by decide +kernel)
  obtain ⟨hnames, hkid, hpk, hchild, hallows, hopen, hfilter, hpayload, hparams, hplaces⟩ :=
    of_decide_eq_true hP
  obtain ⟨cmd, hcmd, hparams⟩ := Option.map_eq_some_iff.mp hparams
  have hx : (openly g r).updateInput (updateBody byPhone city) = .ok ⟨byPhone, city⟩ :=
    updateInput_ok_iff.mpr
      ⟨_, _, _, rfl, rfl, rfl, toOption_eq_some.mp hfilter, toOption_eq_some.mp hpayload⟩
  refine ⟨g, hg, r, hr, hnames, hkid, hpk, hchild, cmd, ?_, hparams, ?_⟩
  · refine (update_runs rfl).mpr ⟨?_, _, hx, toOption_eq_some.mp hcmd⟩
    rw [permit_open hallows hopen]
    rfl
  · obtain ⟨a, hvalues, ha⟩ := List.map_eq_singleton_iff.mp hplaces
    obtain ⟨hcolumn, hplace⟩ := Prod.mk.inj ha
    obtain ⟨p, hp, hposition⟩ := List.map_eq_singleton_iff.mp hplace
    refine ⟨a, by simp [hvalues], hcolumn, p, by simp [hp], ?_⟩
    rw [hposition, hparams]
    rfl

end Serving

end RowServe
