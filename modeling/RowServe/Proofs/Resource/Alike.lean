import RowServe.Proofs.Declaration.Plain
import RowServe.Proofs.Resource.Parts
import RowServe.Proofs.Resource.Uses

/-!
# Values and the text of statements

Values never reach the text of a statement. Two requests that have the same keys, with
values of the same shape under each of them, give the same text; they differ in the
parameters alone. The relation between the two runs also says that the same names are
bound, since these decide the placeholders.

Results:

* `ofFilter_alike`: alike filters have the same conditions and bind the same names.
* `assignments_alike`, `insertions_alike`: the same for the values that are written.
* `text_of_alike`: alike requests have the same text.
-/

namespace RowServe

/-! ## Shapes -/

namespace Json

/-- What is seen of a value without looking inside. -/
inductive Shape where
  | null | scalar | array | object
  deriving DecidableEq, Repr

/-- The shape of a value. -/
def shape : Json → Shape
  | .null => .null
  | .bool _ | .num _ | .str _ => .scalar
  | .arr _ => .array
  | .obj _ => .object

/-- The keys of an object with the shapes of their values. -/
def subshapes : Json → List (String × Shape)
  | .obj entries => entries.map fun e => (e.1, e.2.shape)
  | _ => []

end Json

/-- Does the name stand for one linked row? -/
def TableView.HasLink (view : TableView) (name : String) : Prop :=
  ∃ f ∈ view.fields, f.name = name ∧ f.isForeignKey = true

/-- Two values of one field have the same shape; objects for a linked row also have the
    same keys with values of the same shapes. Objects are kept sorted by key, so the same
    keys come in the same order. -/
structure AlikeValue (view : TableView) (name : String) (v w : Json) : Prop where
  shape : v.shape = w.shape
  subshapes : view.HasLink name → v.subshapes = w.subshapes

/-- Two objects have the same keys, and values that are alike. -/
def Alike (view : TableView) (m n : Object) : Prop :=
  ∀ name, Option.Rel (AlikeValue view name) (m.find? name) (n.find? name)

/-- Two entries are of one field, and alike. -/
structure AlikeEntry (view : TableView) (e d : Field × Json) : Prop where
  field : e.1 = d.1
  declared : e.1 ∈ view.fields
  value : AlikeValue view e.1.name e.2 d.2

/-! ## What a shape decides -/

namespace Json

/-- Objects with the same keys and shapes, entry by entry. -/
theorem subshapes_eq_iff (m n : Object) :
    (obj m).subshapes = (obj n).subshapes ↔
      List.Forall₂ (fun e d => (e.1, e.2.shape) = (d.1, d.2.shape)) m n := by
  unfold subshapes
  dsimp only
  rw [← List.forall₂_eq_eq_eq, List.forall₂_map_left_iff, List.forall₂_map_right_iff]

theorem isNull_eq (v : Json) : v.isNull = decide (v.shape = .null) := by
  cases v <;> rfl

end Json

namespace Filter

open Sql (Binds)

theorem isObject_eq (v : Json) : isObject v = decide (v.shape = .object) := by
  cases v <;> rfl

theorem groupOf_of_shape (f : Field) {v w : Json} (h : v.shape = w.shape) :
    groupOf f v = groupOf f w := by
  unfold groupOf
  rw [isObject_eq, isObject_eq, h]

/-- Arrays and objects are cast to documents, whatever the field. -/
theorem columnCast_eq (f : Field) (v : Json) :
    (columnParam f v).2 =
      if v.shape = .array ∨ v.shape = .object ∨ f.decl.valueType.isCompound = true then
        some "jsonb"
      else f.cast := by
  unfold columnParam
  by_cases hcompound : f.decl.valueType.isCompound = true
  · cases v <;> simp [Json.shape, hcompound]
  · cases v <;> simp [Json.shape, hcompound]

theorem linkedCast_eq (cast : Option String) (v : Json) :
    (linkedParam cast v).2 =
      if v.shape = .array ∨ v.shape = .object then some "jsonb" else cast := by
  cases v <;> rfl

theorem documentCast_eq (f : Field) (v w : Json) :
    (documentParam f v).2 = (documentParam f w).2 := by
  unfold documentParam
  split_ifs <;> rfl

/-- The names of some uses. -/
def namesOf (uses : List Use) : List String := uses.map (·.name)

theorem namesOf_append (us vs : List Use) : namesOf (us ++ vs) = namesOf us ++ namesOf vs :=
  List.map_append

theorem namesOf_useOf (o : Origin) (name : String)
    (param : Json → Sql.Param × Option String) {v w : Json} (h : v.shape = w.shape) :
    namesOf (useOf o name param v) = namesOf (useOf o name param w) := by
  unfold useOf
  rw [Json.isNull_eq, Json.isNull_eq, h]
  split_ifs <;> rfl

theorem names_bindAll {b c : Binds} (hb : b.names = c.names) {us vs : List Use}
    (h : namesOf us = namesOf vs) : (bindAll b us).names = (bindAll c vs).names := by
  refine Binds.names_addAll_congr hb ?_
  rw [List.map_map, List.map_map]
  exact h

theorem place_of_names {b c : Binds} (hb : b.names = c.names) (name : String)
    (cast : Option String) : b.place name cast = c.place name cast := by
  unfold Binds.place
  rw [hb]

/-! ## Linked rows -/

theorem linkedUses_alike (field : String) (casts : Keyed String) {m n : Object}
    (h : (Json.obj m).subshapes = (Json.obj n).subshapes) :
    namesOf (linkedUses field casts m) = namesOf (linkedUses field casts n) := by
  rw [Json.subshapes_eq_iff] at h
  induction h with
  | nil => rfl
  | @cons e d m n he _ ih =>
    obtain ⟨hkey, hshape⟩ := Prod.mk.inj he
    unfold linkedUses at ih ⊢
    rw [List.flatMap_cons, List.flatMap_cons, namesOf_append, namesOf_append, ih]
    unfold linkedUse
    rw [hkey, namesOf_useOf _ _ _ hshape]

theorem comparisonAt_alike {b c : Binds} (hb : b.names = c.names) (source field : String)
    (casts : Keyed String) (key : String) {v w : Json} (h : v.shape = w.shape) :
    comparisonAt b source field casts key v = comparisonAt c source field casts key w := by
  unfold comparisonAt
  rw [Json.isNull_eq, Json.isNull_eq, linkedCast_eq, linkedCast_eq, h, place_of_names hb]

theorem comparisonsAt_alike {b c : Binds} (hb : b.names = c.names) (source field : String)
    (casts : Keyed String) {m n : Object}
    (h : (Json.obj m).subshapes = (Json.obj n).subshapes) :
    (m.map fun e => comparisonAt b source field casts e.1 e.2) =
      n.map fun e => comparisonAt c source field casts e.1 e.2 := by
  rw [Json.subshapes_eq_iff] at h
  induction h with
  | nil => rfl
  | @cons e d m n he _ ih =>
    obtain ⟨hkey, hshape⟩ := Prod.mk.inj he
    rw [List.map_cons, List.map_cons, ih, hkey,
      comparisonAt_alike hb source field casts d.1 hshape]

theorem linkedAt_alike {b c : Binds} (hb : b.names = c.names) (j : Join) (x : Sql.Operand)
    (mode : WhereMode) {m n : Object} (h : (Json.obj m).subshapes = (Json.obj n).subshapes) :
    linkedAt b j x mode m = linkedAt c j x mode n := by
  cases mode with
  | select =>
    have hcomparisons := comparisonsAt_alike hb j.aliasName j.field j.casts h
    have := congrArg (List.map fun c => (⟨j.field, .compare c, true⟩ : Conjunct)) hcomparisons
    rw [List.map_map, List.map_map] at this
    exact this
  | mutate =>
    have hcomparisons := comparisonsAt_alike hb j.table j.field j.casts h
    have hempty : m.isEmpty = n.isEmpty := by
      have hlength := ((Json.subshapes_eq_iff m n).mp h).length_eq
      cases m <;> cases n <;> simp_all
    unfold linkedAt
    dsimp only
    rw [hempty, hcomparisons]

/-! ## Entries -/

/-- Two entries of one field are read in the same way. -/
inductive Reading.Alike : Reading → Reading → Prop where
  | none : Alike .none .none
  | document (x : Sql.Operand) : Alike (.document x) (.document x)
  | contains (x : Sql.Operand) (part part' : Json) : Alike (.contains x part) (.contains x part')
  | linked (x : Sql.Operand) (j : Join) {m n : Object}
      (h : (Json.obj m).subshapes = (Json.obj n).subshapes) :
      Alike (.linked x j m) (.linked x j n)
  | flat (x : Sql.Operand) : Alike (.flat x) (.flat x)

/-- The shape decides how an entry is read. -/
theorem reading_alike {view : TableView} {f : Field} (hf : f ∈ view.fields) {v w : Json}
    (h : AlikeValue view f.name v w) : (reading view f v).Alike (reading view f w) := by
  have hlinked : f.isForeignKey = true → v.subshapes = w.subshapes := fun hkey =>
    h.subshapes ⟨f, hf, rfl, hkey⟩
  have hshape := h.shape
  unfold reading
  cases view.operand? f with
  | none => exact .none
  | some x =>
    dsimp only
    unfold Field.isForeignKey at hlinked
    generalize f.storage = storage
    generalize f.kind = kind at hlinked
    cases storage with
    | extension column => exact .document x
    | column | virtual =>
      cases kind with
      | scalar => exact .flat x
      | manyToMany table column => exact .contains x _ _
      | nestedExtension child =>
        cases v <;> cases w <;> first | contradiction | exact .flat x | exact .contains x _ _
      | foreignKey table column =>
        cases v with
        | obj m =>
          cases w with
          | obj n =>
            dsimp only
            cases view.join? f.name with
            | none => exact .none
            | some j => exact .linked x j (hlinked rfl)
          | _ => contradiction
        | _ => cases w <;> first | contradiction | exact .flat x

theorem entryUses_alike {view : TableView} {f : Field} (hf : f ∈ view.fields) {v w : Json}
    (h : AlikeValue view f.name v w) :
    namesOf (entryUses view f v) = namesOf (entryUses view f w) := by
  have hreading := reading_alike hf h
  unfold entryUses
  revert hreading
  generalize reading view f v = read
  generalize reading view f w = read'
  intro hreading
  cases hreading with
  | none => rfl
  | document x => exact namesOf_useOf _ _ _ h.shape
  | contains x part part' => rfl
  | linked x j hentries => exact linkedUses_alike j.field j.casts hentries
  | flat x => exact namesOf_useOf _ _ _ h.shape

theorem entryAt_alike {view : TableView} {f : Field} (hf : f ∈ view.fields) {v w : Json}
    (h : AlikeValue view f.name v w) {b c : Binds} (hb : b.names = c.names) (mode : WhereMode) :
    entryAt b view mode f v = entryAt c view mode f w := by
  have hreading := reading_alike hf h
  unfold entryAt
  revert hreading
  generalize reading view f v = read
  generalize reading view f w = read'
  intro hreading
  cases hreading with
  | none => rfl
  | document x =>
    unfold documentConditionAt
    rw [Json.isNull_eq, Json.isNull_eq, h.shape, documentCast_eq f v w, place_of_names hb]
  | contains x part part' =>
    unfold containsAt
    rw [place_of_names hb]
  | linked x j hentries => exact linkedAt_alike hb j x mode hentries
  | flat x =>
    unfold flatAt
    rw [Json.isNull_eq, Json.isNull_eq, columnCast_eq, columnCast_eq, h.shape, place_of_names hb]

/-! ## Filters -/

theorem present_alike {view : TableView} {m n : Object} (h : Alike view m n)
    {fields : List Field} (hfields : ∀ f ∈ fields, f ∈ view.fields) :
    List.Forall₂ (AlikeEntry view) (present fields m) (present fields n) := by
  induction fields with
  | nil => exact .nil
  | cons f fields ih =>
    have hrest := ih fun g hg => hfields g (List.mem_cons_of_mem f hg)
    have hvalue := h f.name
    unfold present at hrest ⊢
    rw [List.filterMap_cons, List.filterMap_cons]
    revert hvalue
    generalize m.find? f.name = v
    generalize n.find? f.name = w
    intro hvalue
    cases hvalue with
    | none => exact hrest
    | some hvw => exact .cons ⟨rfl, hfields f List.mem_cons_self, hvw⟩ hrest

theorem inGroups_alike {view : TableView} {es ds : List (Field × Json)}
    (h : List.Forall₂ (AlikeEntry view) es ds) :
    List.Forall₂ (AlikeEntry view) (inGroups es) (inGroups ds) := by
  have hgroup (g : Group) : List.Forall₂ (AlikeEntry view)
      (es.filter fun e => groupOf e.1 e.2 = g) (ds.filter fun e => groupOf e.1 e.2 = g) := by
    refine List.rel_filter (fun e d hed => ?_) h
    have : groupOf e.1 e.2 = groupOf d.1 d.2 := by
      rw [groupOf_of_shape e.1 hed.value.shape, hed.field]
    show decide (groupOf e.1 e.2 = g) = true ↔ decide (groupOf d.1 d.2 = g) = true
    rw [this]
  unfold inGroups
  simp only [List.flatMap_cons, List.flatMap_nil, List.append_nil]
  exact List.rel_append (hgroup .document)
    (List.rel_append (hgroup .linked) (hgroup .flat))

/-- Alike entries bind the same names, if each pair of them does. -/
theorem names_flatMap_alike {view : TableView} {es ds : List (Field × Json)}
    (h : List.Forall₂ (AlikeEntry view) es ds) {uses : Field × Json → List Use}
    (huses : ∀ e d, AlikeEntry view e d → namesOf (uses e) = namesOf (uses d)) :
    namesOf (es.flatMap uses) = namesOf (ds.flatMap uses) := by
  induction h with
  | nil => rfl
  | @cons e d es ds hed _ ih =>
    rw [List.flatMap_cons, List.flatMap_cons, namesOf_append, namesOf_append, ih, huses e d hed]

theorem usesOf_alike {view : TableView} {es ds : List (Field × Json)}
    (h : List.Forall₂ (AlikeEntry view) es ds) :
    namesOf (usesOf view es) = namesOf (usesOf view ds) := by
  refine names_flatMap_alike h fun e d hed => ?_
  rw [← hed.field, entryUses_alike hed.declared hed.value]

theorem conjunctsAt_alike {view : TableView} {es ds : List (Field × Json)}
    (h : List.Forall₂ (AlikeEntry view) es ds) {b c : Binds} (hb : b.names = c.names)
    (mode : WhereMode) : conjunctsAt b view mode es = conjunctsAt c view mode ds := by
  unfold conjunctsAt
  induction h with
  | nil => rfl
  | @cons e d es ds hed _ ih =>
    rw [List.flatMap_cons, List.flatMap_cons, ih, ← hed.field,
      entryAt_alike hed.declared hed.value hb mode]

/-- Alike filters have the same conditions and bind the same names. -/
theorem ofFilter_alike {view : TableView} {m n : Object} (h : Alike view m n) {b c : Binds}
    (hb : b.names = c.names) (mode : WhereMode) :
    (WhereClause.ofFilter view m mode b).1 = (WhereClause.ofFilter view n mode c).1 ∧
      (WhereClause.ofFilter view m mode b).2.names =
        (WhereClause.ofFilter view n mode c).2.names := by
  have hentries : List.Forall₂ (AlikeEntry view) (entriesOf view m) (entriesOf view n) :=
    inGroups_alike (present_alike h fun _ hf => hf)
  have hnames : (bindAll b (filterUses view m)).names = (bindAll c (filterUses view n)).names :=
    names_bindAll hb (usesOf_alike hentries)
  rw [ofFilter_eq view m mode b [], ofFilter_eq view n mode c [], List.append_nil,
    List.append_nil]
  exact ⟨congrArg WhereClause.mk (conjunctsAt_alike hentries hnames mode), hnames⟩

end Filter

/-! ## Changes -/

namespace Change

open RowServe.Filter (bindAll namesOf_useOf names_bindAll names_flatMap_alike place_of_names
  columnCast_eq)
open Sql (Binds)

theorem changed_alike {view : TableView} {m n : Object} (h : Alike view m n)
    (skip : Option String) {fields : List Field} (hfields : ∀ f ∈ fields, f ∈ view.fields) :
    List.Forall₂ (AlikeEntry view) (changed m skip fields) (changed n skip fields) := by
  induction fields with
  | nil => exact .nil
  | cons f fields ih =>
    have hrest := ih fun g hg => hfields g (List.mem_cons_of_mem f hg)
    have hvalue := h f.name
    rw [changed_cons, changed_cons]
    refine List.rel_append ?_ hrest
    split_ifs
    · exact .nil
    · revert hvalue
      generalize m.find? f.name = v
      generalize n.find? f.name = w
      intro hvalue
      cases hvalue with
      | none => exact .nil
      | some hvw => exact .cons ⟨rfl, hfields f List.mem_cons_self, hvw⟩ .nil

theorem changed_columns_alike {view : TableView} {m n : Object} (h : Alike view m n)
    (skip : Option String) :
    List.Forall₂ (AlikeEntry view) (changed m skip (view.fields.filter Field.isColumn))
      (changed n skip (view.fields.filter Field.isColumn)) :=
  changed_alike h skip fun _ hf => (List.mem_filter.mp hf).1

theorem values_alike {view : TableView} {es ds : List (Field × Json)}
    (h : List.Forall₂ (AlikeEntry view) es ds) {value value' : Field → Json → Sql.Assigned}
    (hvalue : ∀ f v w, v.shape = w.shape → value f v = value' f w) :
    (es.map fun e => (⟨e.1.name, value e.1 e.2⟩ : Sql.Assignment)) =
      ds.map fun e => ⟨e.1.name, value' e.1 e.2⟩ := by
  induction h with
  | nil => rfl
  | @cons e d es ds hed _ ih =>
    rw [List.map_cons, List.map_cons, ih, ← hed.field, hvalue e.1 _ _ hed.value.shape]

theorem assignedAt_alike {b c : Binds} (hb : b.names = c.names) (view : TableView)
    (op : Operation) (kidColumn : Option String) (f : Field) {v w : Json}
    (h : v.shape = w.shape) :
    assignedAt b view op kidColumn f v = assignedAt c view op kidColumn f w := by
  have hcast : (assignedParam op kidColumn f v).2 = (assignedParam op kidColumn f w).2 := by
    unfold assignedParam
    split_ifs
    · rfl
    · rfl
    · rw [columnCast_eq, columnCast_eq, h]
  unfold assignedAt
  rw [Json.isNull_eq, Json.isNull_eq, h, hcast, place_of_names hb]

/-- Alike payloads give the same assignments and bind the same names. -/
theorem assignments_alike {view : TableView} {m n : Object} (h : Alike view m n) (op : Operation)
    (kidColumn : Option String) {b c : Binds} (hb : b.names = c.names) :
    (assignments view m op kidColumn b).1 = (assignments view n op kidColumn c).1 ∧
      (assignments view m op kidColumn b).2.names =
        (assignments view n op kidColumn c).2.names := by
  have hentries := changed_columns_alike h (some view.pk)
  have hnames : (bindAll b (assignmentUses view m op kidColumn)).names =
      (bindAll c (assignmentUses view n op kidColumn)).names :=
    names_bindAll hb <| names_flatMap_alike hentries fun e d hed => by
      unfold assignedUses
      rw [← hed.field]
      exact namesOf_useOf _ _ _ hed.value.shape
  rw [assignments_eq, assignments_eq]
  exact ⟨values_alike hentries fun f v w hvw => assignedAt_alike hnames view op kidColumn f hvw,
    hnames⟩

theorem insertedAt_alike {b c : Binds} (hb : b.names = c.names) (f : Field) {v w : Json}
    (h : v.shape = w.shape) : insertedAt b f v = insertedAt c f w := by
  unfold insertedAt
  rw [Json.isNull_eq, Json.isNull_eq, columnCast_eq, columnCast_eq, h, place_of_names hb]

/-- Alike payloads give the same values of an insert and bind the same names. -/
theorem insertions_alike {view : TableView} {m n : Object} (h : Alike view m n)
    (autoincrement : Option String) {b c : Binds} (hb : b.names = c.names) :
    (insertions view autoincrement m b).1 = (insertions view autoincrement n c).1 ∧
      (insertions view autoincrement m b).2.names =
        (insertions view autoincrement n c).2.names := by
  have hentries := changed_columns_alike h (autoincrement.map fun _ => view.pk)
  have hnames : (bindAll b (insertionUses view autoincrement m)).names =
      (bindAll c (insertionUses view autoincrement n)).names :=
    names_bindAll hb <| names_flatMap_alike hentries fun e d hed => by
      unfold insertedUses
      rw [← hed.field]
      exact namesOf_useOf _ _ _ hed.value.shape
  rw [insertions_eq, insertions_eq]
  refine ⟨?_, hnames⟩
  unfold insertionsAt
  rw [values_alike hentries fun f v w hvw => insertedAt_alike hnames f hvw]

end Change

/-! ## Statements -/

namespace Resource

open Sql (Binds Command Template)

/-- Two results are the same but for the values of their parameters. -/
def SameText (x y : Except RequestError Command) : Prop :=
  x.map (·.text) = y.map (·.text) ∧ x.map (·.params.length) = y.map (·.params.length)

theorem complete_alike (t : Template) (values : Template.Values) {b c : Binds}
    (hb : b.names = c.names) : SameText (complete t values b) (complete t values c) := by
  have hlength : b.params.length = c.params.length := by
    have := congrArg List.length hb
    simpa [Binds.names, Binds.params] using this
  unfold complete
  cases t.render values with
  | error e => exact ⟨rfl, rfl⟩
  | ok text => exact ⟨rfl, congrArg Except.ok hlength⟩

theorem getCommand_alike (r : Resource) {m n : Object} (h : Alike r.toTableView m n)
    (selection : Option (List Selected)) :
    SameText (r.getCommand m selection) (r.getCommand n selection) := by
  obtain ⟨hw, hb⟩ := Filter.ofFilter_alike h (b := []) (c := []) rfl .select
  unfold getCommand
  dsimp only
  rw [hw]
  exact complete_alike _ _ hb

theorem listCommand_alike (r : Resource) {m n : Object} (h : Alike r.toTableView m n)
    (page : PageSpec) (selection : Option (List Selected)) :
    SameText (r.listCommand m page selection) (r.listCommand n page selection) := by
  obtain ⟨hw, hb⟩ := Filter.ofFilter_alike h (b := []) (c := []) rfl .select
  unfold listCommand
  dsimp only
  rw [hw]
  exact complete_alike _ _ hb

theorem insertCommand_alike (r : Resource) {p q : Object} (h : Alike r.toTableView p q) :
    SameText (r.insertCommand p) (r.insertCommand q) := by
  obtain ⟨hvalues, hb⟩ := Change.insertions_alike h r.autoincrement (b := []) (c := []) rfl
  unfold insertCommand
  dsimp only
  rw [hvalues]
  split_ifs
  · exact ⟨rfl, rfl⟩
  · exact complete_alike _ _ hb

theorem updateCommand_alike (r : Resource) (op : Operation) {m n p q : Object}
    (filter : Alike r.toTableView m n) (payload : Alike r.toTableView p q) :
    SameText (r.updateCommand op m p) (r.updateCommand op n q) := by
  obtain ⟨hw, hb⟩ := Filter.ofFilter_alike filter (b := []) (c := []) rfl .mutate
  obtain ⟨hvalues, hb'⟩ := Change.assignments_alike payload op r.kidColumn hb
  unfold updateCommand
  dsimp only
  rw [hw, hvalues]
  split_ifs
  · exact ⟨rfl, rfl⟩
  · exact complete_alike _ _ hb'

theorem deleteCommand_alike (r : Resource) (t : Template) {m n : Object}
    (h : Alike r.toTableView m n) : SameText (r.deleteCommand t m) (r.deleteCommand t n) := by
  obtain ⟨hw, hb⟩ := Filter.ofFilter_alike h (b := []) (c := []) rfl .mutate
  unfold deleteCommand
  dsimp only
  rw [hw]
  exact complete_alike _ _ hb

/-- Values never reach the text of a statement. From equal bind names, alike filters and
    alike payloads give the same conditions, joins, assignments and values in SQL, and leave
    equal bind names; so the statements of all operations have the same text, and as many
    parameters. -/
theorem text_of_alike (r : Resource) {m n p q : Object} (filter : Alike r.toTableView m n)
    (payload : Alike r.toTableView p q) {b c : Binds} (names : b.names = c.names) :
    (∀ mode,
      let (w, b') := WhereClause.ofFilter r.toTableView m mode b
      let (w', c') := WhereClause.ofFilter r.toTableView n mode c
      w.sql = w'.sql ∧ w.joins = w'.joins ∧ b'.names = c'.names) ∧
    (∀ op,
      let (values, b') := Change.assignments r.toTableView p op r.kidColumn b
      let (values', c') := Change.assignments r.toTableView q op r.kidColumn c
      Sql.setList values = Sql.setList values' ∧ b'.names = c'.names) ∧
    (let (values, b') := Change.insertions r.toTableView r.autoincrement p b
      let (values', c') := Change.insertions r.toTableView r.autoincrement q c
      Sql.columnList values = Sql.columnList values' ∧
        Sql.valueList values = Sql.valueList values' ∧ b'.names = c'.names) ∧
    (∀ selection, SameText (r.getCommand m selection) (r.getCommand n selection)) ∧
    (∀ page selection,
      SameText (r.listCommand m page selection) (r.listCommand n page selection)) ∧
    SameText (r.insertCommand p) (r.insertCommand q) ∧
    (∀ op, SameText (r.updateCommand op m p) (r.updateCommand op n q)) ∧
    ∀ t, SameText (r.deleteCommand t m) (r.deleteCommand t n) := by
  refine ⟨fun mode => ?_, fun op => ?_, ?_, getCommand_alike r filter,
    listCommand_alike r filter, insertCommand_alike r payload,
    fun op => updateCommand_alike r op filter payload, fun t => deleteCommand_alike r t filter⟩
  · obtain ⟨hw, hb⟩ := Filter.ofFilter_alike filter names mode
    exact ⟨congrArg WhereClause.sql hw, congrArg WhereClause.joins hw, hb⟩
  · obtain ⟨hvalues, hb⟩ := Change.assignments_alike payload op r.kidColumn names
    exact ⟨congrArg Sql.setList hvalues, hb⟩
  · obtain ⟨hvalues, hb⟩ := Change.insertions_alike payload r.autoincrement names
    exact ⟨congrArg Sql.columnList hvalues, congrArg Sql.valueList hvalues, hb⟩

/-- Products of the shop that are found by the name of their producer: the name is a
    parameter, whatever it is. -/
theorem text_of_alike_shop :
    ∃ g, Declarations.shop.resolve = .ok g ∧ ∃ r ∈ g.resources, r.name = "Product" ∧
      SameText (r.getCommand [("producer", .obj [("name", .str "Ann")])] none)
        (r.getCommand [("producer", .obj [("name", .str "'; --")])] none) := by
  obtain ⟨g, hg, r, hr, hname⟩ := Compile.exists_resolved Declarations.shop
    (fun r => r.name = "Product") (by decide +kernel) (by decide +kernel)
  have hfilter : Alike r.toTableView [("producer", .obj [("name", .str "Ann")])]
      [("producer", .obj [("name", .str "'; --")])] := by
    intro name
    simp only [Keyed.find?]
    split_ifs
    · exact .some ⟨rfl, fun _ => rfl⟩
    · exact .none
  have hpayload : Alike r.toTableView [] [] := fun _ => .none
  exact ⟨g, hg, r, hr, by simpa using hname,
    (text_of_alike r hfilter hpayload (b := []) (c := []) rfl).2.2.2.1 none⟩

end Resource

end RowServe
