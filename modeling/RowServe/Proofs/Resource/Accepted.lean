import RowServe.Proofs.Contract.Values
import RowServe.Proofs.Resource.Lookups
import RowServe.Proofs.Resource.Registry

/-!
# Values of accepted objects

What the values of an object are that a contract has accepted: each one has the type of its
declared field and satisfies the rule of it, whether it was sent as a value of the type or
read from a text. Null stays null where it is allowed. A default stands as it is declared,
and nothing is asked of it. Objects for linked rows and for nested extensions hold values of
the fields of the other resource.

Results:

* `validate_entry`: where each value of an accepted object comes from.
* `accepted_keeps`: what the values are that the contracts of a resource accept.
* `catalog_disobeys`: values that are kept although they do not have their declared type.
-/

namespace RowServe

/-! ## Values of a declared field -/

/-- What an object is checked for. -/
inductive Purpose where
  | create | change | filter
  deriving DecidableEq

/-- Fields of an object inside a value are never filtered by. -/
def Purpose.inner : Purpose → Purpose
  | create => create
  | change | filter => change

namespace FieldDecl

/-- The type of the keys in a list of keys. -/
def keyType (d : FieldDecl) : ValueType := d.items.getD .integer

/-- A value of the field: it has the declared type, with items of theirs, and satisfies the
    rule. A field that refers to any number of rows has an array of keys whatever its type,
    or in a filter a single key. -/
def Admits (d : FieldDecl) (purpose : Purpose) (v : Json) : Prop :=
  (if d.isManyToMany then
    ValueType.list.HoldsAll (some d.keyType) v ∨ (purpose = .filter ∧ d.keyType.Holds v)
  else d.valueType.HoldsAll d.items v) ∧ d.rule.Satisfied v

/-- What is kept of a value that was sent for a field, or if nothing was sent. -/
inductive Keeps (d : FieldDecl) (purpose : Purpose) : Option Json → Json → Prop where
  | null (h : d.allowNone = true) : Keeps d purpose (some .null) .null
  | value {sent v : Json} (h : d.Admits purpose v) : Keeps d purpose (some sent) v
  | default {v : Json} (hcreate : purpose = .create) (h : d.missing = some v) :
      Keeps d purpose none v

end FieldDecl

/-- What is kept for a field of a resource: a value of the field, or an object with values of
    fields of the linked resource or of the nested extension. -/
inductive Registry.Keeps (g : Registry) (r : Resource) (f : Field) (purpose : Purpose) :
    Option Json → Json → Prop where
  | own {sent : Option Json} {v : Json} (h : f.decl.Keeps purpose sent v) :
      Keeps g r f purpose sent v
  | linked {j : Join} {l : Resource} {sent kept : Object} (hfilter : purpose = .filter)
      (hj : r.join? f.name = some j) (hl : g.byName? j.resource = some l)
      (h : ∀ k v, kept.find? k = some v →
        ∃ e ∈ l.fields, e.name = k ∧ e.isColumn = true ∧ e.decl.Keeps .change (sent.find? k) v) :
      Keeps g r f purpose (some (.obj sent)) (.obj kept)
  | nested {child : String} {kid : Resource} {sent kept : Object}
      (hkind : f.kind = .nestedExtension child) (hkid : g.byName? child = some kid)
      (h : ∀ k v, kept.find? k = some v →
        ∃ e ∈ kid.fields, e.name = k ∧ kid.isChildField k = true ∧
          e.decl.Keeps purpose.inner (sent.find? k) v) :
      Keeps g r f purpose (some (.obj sent)) (.obj kept)

/-- All contracts of a resource, with what they check. -/
def Resource.checks (r : Resource) : List (Contract × Purpose) :=
  [(r.contracts.post, .create), (r.contracts.update, .change), (r.contracts.get, .filter),
    (r.contracts.list, .filter), (r.contracts.delete, .filter)] ++
  r.contracts.child.toList.map (·, .change)

/-! ## Entries of an accepted object -/

namespace Contract

/-- Where the value of a field comes from in an object without errors. -/
inductive Entry (complete : Bool) (e : FieldSpec × Shape) : Option Json → Json → Prop where
  | null (h : e.1.allowNone = true) : Entry complete e (some .null) .null
  | value {raw w : Json} (h : checkValue e.1 e.2 raw = .ok w) : Entry complete e (some raw) w
  | default {w : Json} (hcomplete : complete = true) (h : e.1.missing = some w) :
      Entry complete e none w

variable {c : Contract} {input : Object} {k : String}

/-- Every value of an accepted object is null where it may be, a checked value, or the default
    of a complete contract. -/
theorem validate_entry {valid : Object} (h : c.validate input = .ok valid) {w : Json}
    (hk : valid.find? k = some w) :
    ∃ e ∈ c.fields, e.1.name = k ∧ Entry c.complete e (input.find? k) w := by
  obtain ⟨e, he, rfl, hsource⟩ := validate_source h hk
  refine ⟨e, he, rfl, ?_⟩
  unfold Source at hsource
  split at hsource
  · rename_i hnull
    rw [hnull, hsource]
    exact .null (checkFields_null (validate_ok h).1 he hnull)
  · rename_i raw _ hraw
    rw [hraw]
    exact .value hsource
  · rename_i hnone
    rw [hnone]
    exact .default hsource.1 hsource.2

/-! ## Values that are checked -/

variable {s : FieldSpec} {d : FieldDecl} {raw w : Json}

/-- What a contract knows about a declared field. -/
theorem ofDecl_ok (h : FieldSpec.ofDecl d = .ok s) :
    (s.name = d.name ∧ s.valueType = d.valueType ∧ s.items = d.items) ∧
      (s.allowNone = d.allowNone ∧ s.missing = d.missing ∧ s.rule = d.rule) ∧
        d.rule.pattern.map Pattern.parse? = s.pattern.map some := by
  unfold FieldSpec.ofDecl at h
  split at h
  · rename_i hnone
    rw [← Except.ok.inj h, hnone]
    exact ⟨⟨rfl, rfl, rfl⟩, ⟨rfl, rfl, rfl⟩, rfl⟩
  · rename_i source hsource
    split at h
    · rename_i p hp
      rw [← Except.ok.inj h, hsource]
      exact ⟨⟨rfl, rfl, rfl⟩, ⟨rfl, rfl, rfl⟩, congrArg some hp⟩
    · contradiction

theorem fieldOf_ok {e : FieldSpec × Shape} (h : Contract.fieldOf d = .ok e) :
    FieldSpec.ofDecl d = .ok e.1 ∧ e.2 = Shape.ofDecl d := by
  obtain ⟨s, hs, rfl⟩ := map_eq_ok.mp h
  exact ⟨hs, rfl⟩

/-- A value that obeys satisfies the declared rule. -/
theorem obeying_satisfied (hs : FieldSpec.ofDecl d = .ok s) {v : Except FieldError Json}
    (h : obeying s v = .ok w) : v = .ok w ∧ d.rule.Satisfied w := by
  obtain ⟨_, ⟨_, _, hrule⟩, hpattern⟩ := ofDecl_ok hs
  refine ⟨obeying_ok h, ?_⟩
  rw [obeying_ok h] at h
  unfold obeying at h
  dsimp only at h
  split at h
  · rename_i hnone
    rw [hrule] at hnone
    exact (ValidationRule.violations_eq_nil_iff hpattern).mp hnone
  · contradiction

theorem checkPlain_admits (hs : FieldSpec.ofDecl d = .ok s) (hone : d.isManyToMany = false)
    {purpose : Purpose} (h : checkPlain s raw = .ok w) : d.Admits purpose w := by
  obtain ⟨⟨_, htype, hitems⟩, _⟩ := ofDecl_ok hs
  obtain ⟨hconvert, hrule⟩ := obeying_satisfied hs h
  refine ⟨?_, hrule⟩
  rw [hone, if_neg Bool.false_ne_true, ← htype, ← hitems]
  exact Convert.convert_hasType hconvert

theorem holds_of_holdsAll {t : ValueType} {v : Json} (h : t.HoldsAll none v) : t.Holds v := by
  cases t <;> exact h

theorem checkLinks_admits (hs : FieldSpec.ofDecl d = .ok s) (hmany : d.isManyToMany = true)
    {acceptScalar : Bool} {purpose : Purpose} (hpurpose : acceptScalar = true → purpose = .filter)
    (h : checkLinks s acceptScalar raw = .ok w) : d.Admits purpose w := by
  obtain ⟨⟨_, _, hitems⟩, _⟩ := ofDecl_ok hs
  obtain ⟨hconvert, hrule⟩ := obeying_satisfied hs h
  refine ⟨?_, hrule⟩
  rw [hmany, if_pos rfl]
  unfold FieldDecl.keyType
  rw [← hitems]
  split at hconvert
  · exact .inl (Convert.convert_hasType hconvert)
  · split_ifs at hconvert with hscalar
    exact .inr ⟨hpurpose hscalar, holds_of_holdsAll (Convert.convert_hasType hconvert)⟩

/-- A field with the shape of its own declaration admits what was checked. -/
theorem checkValue_admits (hs : FieldSpec.ofDecl d = .ok s) {purpose : Purpose}
    (h : checkValue s (Shape.ofDecl d) raw = .ok w) : d.Admits purpose w := by
  unfold Shape.ofDecl at h
  split_ifs at h with hmany hkey
  · rw [checkValue] at h
    exact checkLinks_admits hs hmany (by simp) h
  · rw [checkValue] at h
    exact checkPlain_admits hs (by simpa using hmany) h
  · rw [checkValue] at h
    exact checkPlain_admits hs (by simpa using hmany) h

/-- What is kept of a field, if the values that are checked are its own. -/
theorem keeps_of_entry {e : FieldSpec × Shape} (hs : FieldSpec.ofDecl d = .ok e.1)
    {complete : Bool} {purpose : Purpose} (hpurpose : complete = true → purpose = .create)
    {sent : Option Json} (h : Entry complete e sent w) :
    d.Keeps purpose sent w ∨ ∃ raw, sent = some raw ∧ checkValue e.1 e.2 raw = .ok w := by
  obtain ⟨_, ⟨hnull, hmissing, _⟩, _⟩ := ofDecl_ok hs
  cases h with
  | null h => exact .inl (.null (hnull ▸ h))
  | value h => exact .inr ⟨_, rfl, h⟩
  | default hcomplete h => exact .inl (.default (hpurpose hcomplete) (hmissing ▸ h))

/-- The values of an accepted object, if all fields have the shapes of their declarations. -/
theorem keeps_own {P : FieldDecl → Prop}
    (hc : ∀ e ∈ c.fields, ∃ d, P d ∧ Contract.fieldOf d = .ok e) {purpose : Purpose}
    (hpurpose : c.complete = true → purpose = .create) {valid : Object}
    (h : c.validate input = .ok valid) (hk : valid.find? k = some w) :
    ∃ d, P d ∧ d.name = k ∧ d.Keeps purpose (input.find? k) w := by
  obtain ⟨e, he, rfl, hentry⟩ := validate_entry h hk
  obtain ⟨d, hd, hmade⟩ := hc e he
  obtain ⟨hs, hshape⟩ := fieldOf_ok hmade
  refine ⟨d, hd, (FieldSpec.ofDecl_name hs).symm, ?_⟩
  rcases keeps_of_entry hs hpurpose hentry with hkeeps | ⟨raw, hsent, hvalue⟩
  · exact hkeeps
  · rw [hsent]
    rw [hshape] at hvalue
    exact .value (checkValue_admits hs hvalue)

end Contract

namespace Compile

variable {ds : Declarations} {d : ResourceDecl} {p : Parts} {g : Registry} {r : Resource}

/-! ## Fields of contracts -/

theorem childContract_made {kid owner : ResourceDecl} {c : Contract}
    (h : childContract kid owner = .ok c) {e : FieldSpec × Shape} (he : e ∈ c.fields) :
    ∃ o ∈ ownFields kid owner, Contract.fieldOf o = .ok e := by
  obtain ⟨specs, hspecs, rfl⟩ := map_eq_ok.mp h
  exact partner_of_mem (mapM_eq_ok.mp hspecs) he

theorem lookupContract_made {linked : ResourceDecl} {names : List String} {c : Contract}
    (h : lookupContract linked names = .ok c) {e : FieldSpec × Shape} (he : e ∈ c.fields) :
    ∃ n ∈ names, ∃ o, linked.field? n = some o ∧ Contract.fieldOf o = .ok e := by
  obtain ⟨specs, hspecs, rfl⟩ := map_eq_ok.mp h
  obtain ⟨o, ho, hmade⟩ := partner_of_mem (mapM_eq_ok.mp hspecs) he
  obtain ⟨n, hn, hfind⟩ := List.mem_filterMap.mp ho
  exact ⟨n, hn, o, hfind, hmade⟩

/-- The contract for a nested extension is that of its own fields. -/
theorem nestedContracts_made {owner : ResourceDecl} {fields : List Field}
    {nested : List (String × Contract)} (h : nestedContracts ds owner fields = .ok nested)
    {n : String} {c : Contract} (hc : nested.lookup n = some c) :
    ∃ f ∈ fields, f.name = n ∧ ∃ child kid, f.kind = .nestedExtension child ∧
      ds.byName? child = some kid ∧ childContract kid owner = .ok c := by
  induction fields generalizing nested with
  | nil =>
    rw [← Except.ok.inj h] at hc
    contradiction
  | cons f rest ih =>
    have hrest {nested : List (String × Contract)} (h : nestedContracts ds owner rest = .ok nested)
        (hc : nested.lookup n = some c) : ∃ f' ∈ f :: rest, f'.name = n ∧
          ∃ child kid, f'.kind = .nestedExtension child ∧ ds.byName? child = some kid ∧
            childContract kid owner = .ok c := by
      obtain ⟨f', hf', hmade⟩ := ih h hc
      exact ⟨f', List.mem_cons_of_mem f hf', hmade⟩
    unfold nestedContracts at h
    split at h
    · rename_i child hkind
      split at h
      · rename_i kid hkid
        obtain ⟨first, hfirst, h⟩ := bind_eq_ok.mp h
        obtain ⟨others, hothers, h⟩ := bind_eq_ok.mp h
        rw [← Except.ok.inj h, List.lookup_cons] at hc
        split at hc
        · rename_i hname
          obtain rfl := Option.some.inj hc
          exact ⟨f, List.mem_cons_self, (by simpa using hname : n = f.name).symm, child, kid, hkind,
            hkid, hfirst⟩
        · exact hrest hothers hc
      · exact hrest h hc
    · exact hrest h hc

/-- A contract that writes has its own fields, or the contract of a nested extension. -/
theorem writeContract_made {complete : Bool} {nested : List (String × Contract)}
    {fields : List Field} {c : Contract} (h : writeContract complete nested fields = .ok c) :
    c.complete = complete ∧ ∀ e ∈ c.fields, ∃ f ∈ fields, FieldSpec.ofDecl f.decl = .ok e.1 ∧
      ((nested.lookup f.name = none ∧ e.2 = Shape.ofDecl f.decl) ∨
        ∃ own, nested.lookup f.name = some own ∧ e.2 = .nested complete own.fields) := by
  obtain ⟨specs, hspecs, rfl⟩ := map_eq_ok.mp h
  refine ⟨rfl, fun e he => ?_⟩
  obtain ⟨f, hf, hmade⟩ := partner_of_mem (mapM_eq_ok.mp hspecs) he
  obtain ⟨⟨s, shape⟩, hown, rfl⟩ := map_eq_ok.mp hmade
  obtain ⟨hs, rfl⟩ := Contract.fieldOf_ok hown
  refine ⟨f, hf, ?_⟩
  dsimp only
  cases hnested : nested.lookup f.name with
  | none => exact ⟨hs, .inl ⟨rfl, rfl⟩⟩
  | some own => exact ⟨hs, .inr ⟨own, rfl, rfl⟩⟩

theorem contractsOf_made {parent : Option ResourceDecl} {pk : FieldDecl} {pkFromSession : Bool}
    {lists : Lists} {fields : List Field} {linked : List Linked}
    {nested : List (String × Contract)} {cs : Contracts}
    (h : contractsOf d parent pk pkFromSession lists fields linked nested = .ok cs) :
    ∃ created changed, (∀ f ∈ created ++ changed, f ∈ fields) ∧
      writeContract true nested created = .ok cs.post ∧
      writeContract false nested changed = .ok cs.update := by
  unfold contractsOf at h
  simp only [bind_eq_ok] at h
  obtain ⟨post, hpost, get, _, list, _, delete, _, update, hupdate, hrest⟩ := h
  have hcs : cs.post = post ∧ cs.update = update := by
    cases parent <;>
      · obtain ⟨child, _, he⟩ := bind_eq_ok.mp hrest
        rw [← Except.ok.inj he]
        exact ⟨rfl, rfl⟩
  rw [hcs.1, hcs.2]
  refine ⟨_, _, fun f hf => ?_, hpost, hupdate⟩
  rcases List.mem_append.mp hf with hf | hf
  · exact List.mem_of_mem_filter (List.mem_of_mem_filter hf)
  · exact List.mem_of_mem_filter (List.mem_of_mem_filter hf)

/-! ## Kinds of fields -/

theorem target?_references {e : FieldDecl} {target : String × String}
    (h : e.target? = some target) : e.references.isSome = true := by
  obtain ⟨reference, hsome, _⟩ := Option.bind_eq_some_iff.mp h
  exact Option.isSome_of_mem hsome

/-- What a field may stand for, and when. -/
theorem kindOf_cases (ds : Declarations) (owner : ResourceDecl) (e : FieldDecl)
    (storage : Storage) :
    kindOf ds owner e storage = .scalar ∨
      (∃ table column, kindOf ds owner e storage = .manyToMany table column ∧
        e.isManyToMany = true) ∨
      (∃ table column, kindOf ds owner e storage = .foreignKey table column ∧
        e.isManyToMany = false) ∨
      ∃ kid, kindOf ds owner e storage = .nestedExtension kid.name ∧ storage = .column ∧
        kidOf? ds owner.name e.name = some kid := by
  unfold kindOf FieldDecl.isManyToMany
  by_cases hstorage : storage ≠ .column
  · exact .inl (if_pos hstorage)
  rw [if_neg hstorage]
  split
  · rename_i table column htarget
    rw [target?_references htarget]
    split_ifs with hmany
    · exact .inr (.inl ⟨table, column, rfl, by simpa using hmany⟩)
    · exact .inr (.inr (.inl ⟨table, column, rfl, by simpa using hmany⟩))
  · split
    · rename_i kid hkid
      exact .inr (.inr (.inr ⟨kid, rfl, not_not.mp hstorage, hkid⟩))
    · exact .inl rfl

/-- The nested extension in a column is a resource that extends the owner of the column. -/
theorem fieldsOf_extension {owner : ResourceDecl} {f : Field} (hf : f ∈ fieldsOf ds d owner)
    {child : String} (hkind : f.kind = .nestedExtension child) :
    ∃ kid ∈ ds, kid.name = child ∧ kid.info.extendsOn = some ⟨owner.name, f.name⟩ := by
  obtain ⟨storage, e, rfl, _⟩ := fieldsOf_made hf
  have hkind : kindOf ds owner e storage = .nestedExtension child := hkind
  rcases kindOf_cases ds owner e storage with
    h | ⟨_, _, h, _⟩ | ⟨_, _, h, _⟩ | ⟨kid, h, _, hkid⟩
  · exact absurd (h.symm.trans hkind) (by simp)
  · exact absurd (h.symm.trans hkind) (by simp)
  · exact absurd (h.symm.trans hkind) (by simp)
  · have hext : kid.info.extendsOn = some ⟨owner.name, e.name⟩ := by
      simpa using List.find?_some hkid
    exact ⟨kid, List.mem_of_find?_eq_some hkid,
      FieldKind.nestedExtension.inj (h.symm.trans hkind), hext⟩

theorem fieldsOf_many {owner : ResourceDecl} {f : Field} (hf : f ∈ fieldsOf ds d owner) :
    (∀ table column, f.kind = .manyToMany table column → f.decl.isManyToMany = true) ∧
      ∀ table column, f.kind = .foreignKey table column → f.decl.isManyToMany = false := by
  obtain ⟨storage, e, rfl, _⟩ := fieldsOf_made hf
  show (∀ table column, kindOf ds owner e storage = .manyToMany table column → _) ∧
    ∀ table column, kindOf ds owner e storage = .foreignKey table column → _
  rcases kindOf_cases ds owner e storage with
    h | ⟨_, _, h, hmany⟩ | ⟨_, _, h, hone⟩ | ⟨kid, h, _⟩
  · simp [h]
  · exact ⟨fun _ _ _ => hmany, by simp [h]⟩
  · exact ⟨by simp [h], fun _ _ _ => hone⟩
  · simp [h]

/-! ## Other resources -/

/-- Checked resources are found under their names. -/
theorem byName?_of_check (hcheck : ds.check = .ok ()) (hd : d ∈ ds) :
    ds.byName? d.name = some d :=
  find?_of_unique hd fun _ he h =>
    List.inj_on_of_nodup_map (Declarations.check_names hcheck) he hd h

/-- The own fields of a nested extension are those that its resource keeps in the column. -/
theorem exists_kid (hg : ds.resolve = .ok g) (hd : d ∈ ds) {f : Field} {kid : ResourceDecl}
    (hkid : kid ∈ ds) (hext : kid.info.extendsOn = some ⟨d.name, f.name⟩) :
    ∃ r, g.byName? kid.name = some r ∧ ∀ o ∈ ownFields kid d, ∃ e ∈ r.fields,
      e.decl = o ∧ r.isChildField o.name = true := by
  obtain ⟨hcheck, _, hrs⟩ := resolve_ok_iff.mp hg
  obtain ⟨r, hr, hcompiled⟩ := partner_of_mem hrs.flip hkid
  have hfound := byName?_of_mem hg hr
  rw [resource_name hcompiled] at hfound
  have howner : ds.owner kid = d := owner_of_parent hext (byName?_of_check hcheck hd)
  refine ⟨r, hfound, fun o ho => ?_⟩
  have hchild : r.isChildField o.name = true :=
    (isChildField_iff hcompiled).mpr ⟨o, howner ▸ ho, rfl⟩
  obtain ⟨q, templates, hq, _, rfl⟩ := resource_ok_iff.mp hcompiled
  have hparent := (parent_eq hq hext).1
  rw [howner] at hparent
  obtain ⟨e, he, hdecl⟩ := own_field hq hparent ho
  exact ⟨e, he, hdecl, hchild⟩

/-- The stored fields of a resource with a table of its own are its columns. -/
theorem exists_plain (hg : ds.resolve = .ok g) (hd : d ∈ ds) (hplain : d.isKid = false) :
    ∃ r, g.byName? d.name = some r ∧ ∀ o ∈ d.fields, o.sql.isSome = true → ∃ e ∈ r.fields,
      e.decl = o ∧ e.isColumn = true := by
  obtain ⟨hcheck, _, hrs⟩ := resolve_ok_iff.mp hg
  obtain ⟨r, hr, hcompiled⟩ := partner_of_mem hrs.flip hd
  have hfound := byName?_of_mem hg hr
  rw [resource_name hcompiled] at hfound
  refine ⟨r, hfound, fun o ho hstored => ?_⟩
  have hext := ResourceDecl.extends_none hplain
  obtain ⟨q, templates, hq, _, rfl⟩ := resource_ok_iff.mp hcompiled
  have howner := hq.owner_self hext
  refine ⟨fieldOf ds d (storageOf o) o, ?_, rfl, ?_⟩
  · show _ ∈ fieldsOf ds d (q.owner d)
    rw [howner]
    exact List.mem_append_left _ (List.mem_map_of_mem ho)
  · show decide ((if o.sql.isSome then Storage.column else .virtual) = .column) = true
    rw [hstored]
    rfl

/-! ## Values of contracts -/

variable {f : Field} {s : FieldSpec} {raw w : Json} {purpose : Purpose}

theorem Purpose.inner_create {complete : Bool} (h : complete = true → purpose = .create) :
    complete = true → purpose.inner = .create := by
  intro hcomplete
  rw [h hcomplete]
  rfl

/-- A value of a field that a nested extension is kept in, in a request that knows it. -/
theorem keeps_nested (hg : ds.resolve = .ok g) (hd : d ∈ ds) (hp : p.Valid ds d)
    (hf : f ∈ p.fields ds d) {child : String} (hkind : f.kind = .nestedExtension child)
    {kid : ResourceDecl} (hkid : ds.byName? child = some kid) {own : Contract}
    (hown : childContract kid (p.owner d) = .ok own) {complete : Bool}
    (hpurpose : complete = true → purpose = .create)
    (h : Contract.checkValue s (.nested complete own.fields) raw = .ok w) :
    g.Keeps r f purpose (some raw) w := by
  obtain ⟨hcheck, _, _⟩ := resolve_ok_iff.mp hg
  obtain ⟨kid', hkid', rfl, hext⟩ := fieldsOf_extension hf hkind
  obtain rfl : kid' = kid := Option.some.inj ((byName?_of_check hcheck hkid').symm.trans hkid)
  obtain ⟨q, hq, hfields⟩ := exists_kid hg (owner_mem hd hp) hkid' hext
  cases raw with
  | obj sent =>
    obtain ⟨hvalid, rfl⟩ :=
      Contract.checkValue_inner (c := ⟨complete, own.fields⟩) (.inr rfl) h
    refine .nested hkind hq fun k v hv => ?_
    obtain ⟨o, ho, rfl, hkeeps⟩ := Contract.keeps_own (c := ⟨complete, own.fields⟩)
      (fun e he => childContract_made hown he) (Purpose.inner_create hpurpose) hvalid hv
    obtain ⟨e, he, rfl, hchild⟩ := hfields o ho
    exact ⟨e, he, rfl, hchild, hkeeps⟩
  | null | bool | num | str | arr => exact absurd h (by simp [Contract.checkValue])

/-- The contracts for filters on a linked row have stored fields of the linked resource. -/
theorem linked_made {ownTable name table column : String} {l : Linked}
    (hlinked : linkedOf ds ownTable name table column = .ok l) {c : Contract}
    (hc : c = l.get ∨ c = l.list) :
    ∃ target, ds.byTable? table = some target ∧ l.join.resource = target.name ∧
      c.complete = false ∧ ∀ e ∈ c.fields,
        ∃ o, (o ∈ target.fields ∧ o.sql.isSome = true) ∧ Contract.fieldOf o = .ok e := by
  obtain ⟨target, htarget, hget, hlist, _, hgetFields, hlistFields, _⟩ := linkedOf_parts hlinked
  obtain ⟨target', htarget', _, hresource, _⟩ := linkedOf_ok hlinked
  obtain rfl : target' = target := Option.some.inj (htarget'.symm.trans htarget)
  refine ⟨target', htarget, hresource, ?_⟩
  have hstored {names : List String}
      (hlookup : lookupContract target' (stored target' names) = .ok c) :
      c.complete = false ∧ ∀ e ∈ c.fields,
        ∃ o, (o ∈ target'.fields ∧ o.sql.isSome = true) ∧ Contract.fieldOf o = .ok e := by
    refine ⟨(lookupContract_ok hlookup).1, fun e he => ?_⟩
    obtain ⟨n, hn, o, ho, hmade⟩ := lookupContract_made hlookup he
    have hsql := (List.mem_filter.mp hn).2
    rw [ho] at hsql
    exact ⟨o, ⟨List.mem_of_find?_eq_some ho, hsql⟩, hmade⟩
  rcases hc with rfl | rfl
  · exact hstored (hgetFields ▸ hget)
  · exact hstored (hlistFields ▸ hlist)

/-- A value of a foreign key in a filter on the linked row. -/
theorem keeps_linked (hg : ds.resolve = .ok g) (hr : r ∈ g.resources)
    (hs : FieldSpec.ofDecl f.decl = .ok s) (hone : f.decl.isManyToMany = false) {l : Linked}
    (hl : l.join ∈ r.joins) (hname : l.join.field = f.name) {ownTable table column : String}
    (hlinked : linkedOf ds ownTable f.name table column = .ok l) {c : Contract}
    (hc : c = l.get ∨ c = l.list)
    (h : Contract.checkValue s c.asLookup raw = .ok w) : g.Keeps r f .filter (some raw) w := by
  obtain ⟨target, htarget, hresource, hpartial, hmade⟩ := linked_made hlinked hc
  obtain ⟨htargetmem, hplain, _⟩ := Declarations.byTable?_some htarget
  obtain ⟨q, hq, hfields⟩ := exists_plain hg htargetmem hplain
  have hjoin := join?_of_mem hg hr hl
  rw [hname] at hjoin
  cases raw with
  | obj sent =>
    obtain ⟨hvalid, rfl⟩ := Contract.checkValue_inner (.inl rfl) h
    refine .linked rfl hjoin (hresource ▸ hq) fun k v hv => ?_
    have hpurpose : c.complete = true → Purpose.change = .create := by simp [hpartial]
    obtain ⟨o, ⟨ho, hsql⟩, rfl, hkeeps⟩ := Contract.keeps_own hmade hpurpose hvalid hv
    obtain ⟨e, he, rfl, hcolumn⟩ := hfields o ho hsql
    exact ⟨e, he, rfl, hcolumn, hkeeps⟩
  | null | bool | num | str | arr =>
    exact .own (.value (Contract.checkPlain_admits hs hone
      (by simpa only [Contract.asLookup, Contract.checkValue] using h)))

/-- A value in a request that writes. -/
theorem keeps_write (hg : ds.resolve = .ok g) (hd : d ∈ ds) (hp : p.Valid ds d)
    {fields : List Field} (hfields : ∀ f ∈ fields, f ∈ p.fields ds d) {complete : Bool}
    (hpurpose : complete = true → purpose = .create) {c : Contract}
    (hc : writeContract complete p.nested fields = .ok c) {input valid : Object}
    (h : c.validate input = .ok valid) {k : String} (hk : valid.find? k = some w) :
    ∃ f ∈ p.fields ds d, f.name = k ∧ g.Keeps r f purpose (input.find? k) w := by
  obtain ⟨hcomplete, hmade⟩ := writeContract_made hc
  obtain ⟨e, he, rfl, hentry⟩ := Contract.validate_entry h hk
  obtain ⟨f, hf, hs, hshape⟩ := hmade e he
  have hname : f.name = e.1.name := (FieldSpec.ofDecl_name hs).symm
  rcases Contract.keeps_of_entry hs (hcomplete ▸ hpurpose) hentry with
    hkeeps | ⟨raw, hsent, hvalue⟩
  · exact ⟨f, hfields f hf, hname, .own hkeeps⟩
  rw [hsent]
  rcases hshape with ⟨_, hshape⟩ | ⟨own, hlookup, hshape⟩
  · rw [hshape] at hvalue
    exact ⟨f, hfields f hf, hname, .own (.value (Contract.checkValue_admits hs hvalue))⟩
  · -- The contract was made for the first field of the name, which need not be `f` itself.
    obtain ⟨f', hf', hname', child, kid, hkind, hkid, hown⟩ :=
      nestedContracts_made hp.nested hlookup
    rw [hshape] at hvalue
    exact ⟨f', hf', hname'.trans hname,
      keeps_nested hg hd hp hf' hkind hkid hown hpurpose hvalue⟩

/-- A value of a foreign key in a filter. -/
theorem keeps_foreignKey (hg : ds.resolve = .ok g) (hr : r ∈ g.resources) (hp : p.Valid ds d)
    (hjoins : r.joins = p.linked.map (·.join)) (hs : FieldSpec.ofDecl f.decl = .ok s)
    (hone : f.decl.isManyToMany = false) {list : Bool} {own : Shape} {table column : String}
    (hkind : f.kind = .foreignKey table column)
    (h : Contract.checkValue s (readShape list p.linked p.nested f own) raw = .ok w) :
    g.Keeps r f .filter (some raw) w := by
  rw [readShape, hkind] at h
  dsimp only at h
  cases hl : p.linked.find? (·.join.field = f.name) with
  | none =>
    rw [hl] at h
    rw [Contract.checkValue] at h
    exact .own (.value (Contract.checkPlain_admits hs hone h))
  | some l =>
    rw [hl] at h
    have hlmem := List.mem_of_find?_eq_some hl
    have hlname : l.join.field = f.name := by simpa using List.find?_some hl
    obtain ⟨_, table', column', _, _, hlinked⟩ := linkedAll_ok hp.linked hlmem
    rw [hlname] at hlinked
    have hjoin : l.join ∈ r.joins := hjoins ▸ List.mem_map_of_mem hlmem
    refine keeps_linked hg hr hs hone hjoin hlname hlinked ?_ h
    cases list
    · exact .inl rfl
    · exact .inr rfl

/-- A value in a filter. -/
theorem keeps_read (hg : ds.resolve = .ok g) (hr : r ∈ g.resources) (hd : d ∈ ds)
    (hp : p.Valid ds d) (hjoins : r.joins = p.linked.map (·.join)) {list : Bool}
    {names : List String} {c : Contract}
    (hc : readContract list p.linked p.nested (p.fields ds d) names = .ok c)
    {input valid : Object} (h : c.validate input = .ok valid) {k : String}
    (hk : valid.find? k = some w) :
    ∃ f ∈ p.fields ds d, f.name = k ∧ g.Keeps r f .filter (input.find? k) w := by
  obtain ⟨e, he, rfl, hentry⟩ := Contract.validate_entry h hk
  obtain ⟨f, own, hfind, hmade, hshape⟩ := readContract_shape hc he
  obtain ⟨hs, hown⟩ : FieldSpec.ofDecl f.decl = .ok e.1 ∧ own = Shape.ofDecl f.decl :=
    Contract.fieldOf_ok hmade
  have hf : f ∈ p.fields ds d := List.mem_of_find?_eq_some hfind
  have hname : f.name = e.1.name := (FieldSpec.ofDecl_name hs).symm
  have hpurpose : c.complete = true → Purpose.filter = .create := by
    simp [(readContract_ok hc).1]
  rcases Contract.keeps_of_entry hs hpurpose hentry with hkeeps | ⟨raw, hsent, hvalue⟩
  · exact ⟨f, hf, hname, .own hkeeps⟩
  rw [hsent]
  rw [hshape] at hvalue
  obtain ⟨hmany, hone⟩ := fieldsOf_many hf
  have hplain (h : Contract.checkValue e.1 own raw = .ok w) :
      ∃ f ∈ p.fields ds d, f.name = e.1.name ∧ g.Keeps r f .filter (some raw) w := by
    rw [hown] at h
    exact ⟨f, hf, hname, .own (.value (Contract.checkValue_admits hs h))⟩
  cases hkind : f.kind with
  | scalar =>
    rw [readShape, hkind] at hvalue
    exact hplain hvalue
  | manyToMany table column =>
    rw [readShape, hkind] at hvalue
    rw [Contract.checkValue] at hvalue
    exact ⟨f, hf, hname, .own (.value (Contract.checkLinks_admits hs (hmany _ _ hkind)
      (fun _ => rfl) hvalue))⟩
  | foreignKey table column =>
    exact ⟨f, hf, hname, keeps_foreignKey hg hr hp hjoins hs (hone _ _ hkind) hkind hvalue⟩
  | nestedExtension child =>
    rw [readShape, hkind] at hvalue
    dsimp only at hvalue
    cases hlookup : p.nested.lookup f.name with
    | none =>
      rw [hlookup] at hvalue
      exact hplain hvalue
    | some nested =>
      rw [hlookup] at hvalue
      obtain ⟨f', hf', hname', child', kid, hkind', hkid, hmade'⟩ :=
        nestedContracts_made hp.nested hlookup
      exact ⟨f', hf', hname'.trans hname,
        keeps_nested hg hd hp hf' hkind' hkid hmade' (by simp [Contract.partial]) hvalue⟩

/-- Every value of an object that a contract of a resource has accepted is kept for a declared
    field of its name, as the declaration asks. -/
theorem accepted_keeps (hg : ds.resolve = .ok g) (hr : r ∈ g.resources) {c : Contract}
    (hc : (c, purpose) ∈ r.checks) {input valid : Object} (h : c.validate input = .ok valid)
    {k : String} (hk : valid.find? k = some w) :
    ∃ f ∈ r.fields, f.name = k ∧ g.Keeps r f purpose (input.find? k) w := by
  obtain ⟨d, hd, hcompiled⟩ := mem_resolved hg hr
  obtain ⟨p, templates, hp, _, rfl⟩ := resource_ok_iff.mp hcompiled
  obtain ⟨created, changed, hmem, hpost, hupdate⟩ := contractsOf_made hp.contracts
  obtain ⟨hget, hlist, hdelete, hchild⟩ := contractsOf_ok hp.contracts
  obtain ⟨hcreated, hchanged⟩ := List.forall_mem_append.mp hmem
  rcases List.mem_append.mp hc with hc | hc
  · simp only [List.mem_cons, Prod.mk.injEq, List.not_mem_nil, or_false] at hc
    rcases hc with ⟨rfl, rfl⟩ | ⟨rfl, rfl⟩ | ⟨rfl, rfl⟩ | ⟨rfl, rfl⟩ | ⟨rfl, rfl⟩
    · exact keeps_write hg hd hp hcreated (fun _ => rfl) hpost h hk
    · exact keeps_write hg hd hp hchanged (by simp) hupdate h hk
    · exact keeps_read hg hr hd hp rfl hget h hk
    · exact keeps_read hg hr hd hp rfl hlist h hk
    · exact keeps_read hg hr hd hp rfl hdelete h hk
  · obtain ⟨child, hsome, heq⟩ := List.mem_map.mp hc
    obtain ⟨rfl, rfl⟩ := Prod.mk.inj heq
    obtain ⟨q, own, hq, hown, rfl⟩ := hchild child (Option.mem_toList.mp hsome)
    obtain ⟨o, ho, rfl, hkeeps⟩ := Contract.keeps_own (c := own.partial)
      (fun e he => childContract_made hown he) (by simp [Contract.partial]) h hk
    obtain ⟨f, hf, rfl⟩ := own_field hp hq ho
    exact ⟨f, hf, rfl, .own hkeeps⟩

/-- The rating of an operator is read from a text inside the details of an actor. -/
theorem staff_keeps :
    ∃ g, Declarations.staff.resolve = .ok g ∧ ∃ r ∈ g.resources,
      r.contracts.post.validate [("details", .obj [("rating", .str "5")]), ("id", .ofInt 1)] =
        .ok [("details", .obj [("rating", .ofInt 5)]), ("id", .ofInt 1)] ∧
      ∃ f ∈ r.fields, f.name = "details" ∧
        g.Keeps r f .create (some (.obj [("rating", .str "5")])) (.obj [("rating", .ofInt 5)]) := by
  obtain ⟨g, hg, r, hr, hP⟩ := exists_resolved Declarations.staff
    (fun r => (r.contracts.post.validate
      [("details", .obj [("rating", .str "5")]), ("id", .ofInt 1)]).toOption =
        some [("details", .obj [("rating", .ofInt 5)]), ("id", .ofInt 1)])
    (by decide +kernel) (by decide +kernel)
  rw [decide_eq_true_eq, toOption_eq_some] at hP
  exact ⟨g, hg, r, hr, hP, accepted_keeps hg hr List.mem_cons_self hP rfl⟩

/-! ## Values that are not of their type -/

/-- Products with a rank, whose default is no number, with a producer, who has to be the first
    one, and with the keys of all makers, which are declared as one integer. -/
def catalog : Declarations :=
  [.plain "Producer" "producer" [.key "id"],
    { ResourceDecl.plain "Product" "product"
        [.key "id",
          { FieldDecl.plain "rank" .integer (some (.simple "int")) with
            missing := some (.str "none") },
          { FieldDecl.link "producer" "producer.id" with
            rule := { ValidationRule.any with allowed := some [.ofInt 1] } },
          { FieldDecl.plain "makers" .integer (some (.simple "jsonb")) with
            references := some "producer.id"
            many := true }] with
      info := { ResourceMeta.plain with
        route := some "product"
        getBy := some ["id", "producer"] } }]

/-- The values of two accepted objects: a default and an array of keys that are not of the
    declared types, and an object for a linked row that the rule of the key does not allow. -/
theorem catalog_disobeys :
    ∃ g, catalog.resolve = .ok g ∧ ∃ r ∈ g.resources,
      r.contracts.post.validate [("id", .ofInt 1), ("makers", .arr [.ofInt 1])] =
        .ok [("id", .ofInt 1), ("makers", .arr [.ofInt 1]), ("rank", .str "none")] ∧
      (∀ f ∈ r.fields, f.name = "rank" → ¬ f.decl.valueType.HoldsAll f.decl.items (.str "none")) ∧
      (∀ f ∈ r.fields, f.name = "makers" →
        ¬ f.decl.valueType.HoldsAll f.decl.items (.arr [.ofInt 1])) ∧
      r.contracts.get.validate [("producer", .obj [("id", .ofInt 3)])] =
        .ok [("producer", .obj [("id", .ofInt 3)])] ∧
      ∀ f ∈ r.fields, f.name = "producer" → ¬ f.decl.rule.Satisfied (.obj [("id", .ofInt 3)]) := by
  obtain ⟨g, hg, r, hr, hP⟩ := exists_resolved catalog
    (fun r =>
      (r.contracts.post.validate [("id", .ofInt 1), ("makers", .arr [.ofInt 1])]).toOption =
        some [("id", .ofInt 1), ("makers", .arr [.ofInt 1]), ("rank", .str "none")] &&
      (r.contracts.get.validate [("producer", .obj [("id", .ofInt 3)])]).toOption =
        some [("producer", .obj [("id", .ofInt 3)])] &&
      r.fields.all fun f =>
        (f.name = "rank" → f.decl.valueType = .integer) ∧
        (f.name = "makers" → f.decl.valueType = .integer) ∧
        (f.name = "producer" → f.decl.rule.allowed = some [.ofInt 1]))
    (by decide +kernel) (by decide +kernel)
  simp only [Bool.and_eq_true, decide_eq_true_eq, toOption_eq_some, List.all_eq_true] at hP
  obtain ⟨⟨hpost, hget⟩, hfields⟩ := hP
  have hinteger {t : ValueType} {items : Option ValueType} {v : Json} (ht : t = .integer)
      (hv : ∀ i, v ≠ .ofInt i) : ¬ t.HoldsAll items v := by
    rw [ht]
    rintro ⟨i, _, hi⟩
    exact hv i hi
  refine ⟨g, hg, r, hr, hpost, fun f hf hname => ?_, fun f hf hname => ?_, hget,
    fun f hf hname hrule => ?_⟩
  · exact hinteger ((hfields f hf).1 hname) (by simp [Json.ofInt])
  · exact hinteger ((hfields f hf).2.1 hname) (by simp [Json.ofInt])
  · obtain ⟨a, ha, hequal⟩ := hrule.allowed _ ((hfields f hf).2.2 hname)
    rw [List.mem_singleton.mp ha] at hequal
    exact absurd hequal (by decide)

end Compile

end RowServe
