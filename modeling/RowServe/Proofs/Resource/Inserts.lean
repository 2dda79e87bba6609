import RowServe.Proofs.Resource.Documents

/-!
# Columns and values of an insert

An insert lists columns and values beside each other, and binds parameters for some of the
values. The three lists fit together for every resource and every payload: which columns are
listed depends on the declaration of the table and on the keys of the payload, and each value
belongs to the column at its position.

Results:

* `columnNames_declared`, `keySequence_declared`: the columns of a compiled resource.
* `insertions_columns`, `insertions_given`: which columns are listed, and what each of them gets.
* `insert_aligned`: the lists of an insert.
-/

namespace RowServe

open RowServe.Filter (bindAll)
open Sql (Assigned Param)

/-! ## Declared columns -/

namespace Declarations

variable (ds : Declarations) (d : ResourceDecl)

/-- The declared fields that are columns of the table of a resource, in order. -/
def storedFields : List FieldDecl := (ds.owner d).fields.filter (·.sql.isSome)

/-- The sequence that is declared for the primary key of the table, with the key. -/
def keySequence? : Option (String × String) :=
  (ds.owner d).primaryKey?.bind fun key => key.autoincrement.map fun sequence =>
    (key.name, sequence)

/-- The columns of an insert of a payload: the key, if a sequence is declared for it, and behind it
    the other stored fields that the payload has. -/
def insertColumns (payload : Object) : List String :=
  let key := (ds.keySequence? d).map (·.1)
  key.toList ++
    ((ds.storedFields d).map (·.name)).filter fun c => decide (key ≠ some c) && payload.has c

end Declarations

/-- A parameter stands for a value of a declared field: a document for arrays, objects and
    whatever the field declares as compound, and a text for other values. -/
inductive FieldDecl.Encodes (e : FieldDecl) : Json → Param → Prop where
  | compound {v : Json} (h : e.valueType.isCompound = true) : Encodes e v (.json v)
  | array {items : List Json} : Encodes e (.arr items) (.json (.arr items))
  | object {es : Object} : Encodes e (.obj es) (.json (.obj es))
  | truth {b : Bool} (h : e.valueType.isCompound = false) :
      Encodes e (.bool b) (.text (some (if b then "true" else "false")))
  | number {n : Number} (h : e.valueType.isCompound = false) :
      Encodes e (.num n) (.text (some n.text))
  | text {s : String} (h : e.valueType.isCompound = false) : Encodes e (.str s) (.text (some s))

theorem Filter.columnParam_encodes (f : Field) {v : Json} (hnull : v.isNull = false) :
    f.decl.Encodes v (columnParam f v).1 := by
  unfold columnParam
  cases v with
  | null => contradiction
  | arr items => exact .array
  | obj es => exact .object
  | bool b | num n | str s =>
    dsimp only
    split_ifs with hcompound
    · exact .compound hcompound
    · constructor
      exact Bool.eq_false_iff.mpr hcompound

/-- What an insert gives to a column, by the declaration of the table and by the payload: the next
    value of the sequence for the key, null for null, and else a placeholder for a parameter that
    stands for the value that the payload has under the name of the column. -/
inductive Declarations.Gives (ds : Declarations) (d : ResourceDecl) (payload : Object)
    (params : List Param) : String → Assigned → Prop where
  | next {c sequence : String} (h : ds.keySequence? d = some (c, sequence)) :
      Gives ds d payload params c (.next sequence)
  | null {c : String} (hkey : (ds.keySequence? d).map (·.1) ≠ some c)
      (h : payload.find? c = some .null) : Gives ds d payload params c .null
  | bound {c : String} {v : Json} {e : FieldDecl} {p : Sql.Placeholder} {x : Param}
      (hkey : (ds.keySequence? d).map (·.1) ≠ some c) (hv : payload.find? c = some v)
      (hnull : v ≠ .null) (he : (ds.storedFields d).find? (·.name = c) = some e)
      (hpos : 1 ≤ p.position) (hx : params[p.position - 1]? = some x) (henc : e.Encodes v x) :
      Gives ds d payload params c (.bound p)

namespace Compile

variable {ds : Declarations} {d : ResourceDecl} {r : Resource}

theorem fieldOf_isColumn (owner : ResourceDecl) (e : FieldDecl) :
    (fieldOf ds owner (storageOf e) e).isColumn = e.sql.isSome := by
  show decide (storageOf e = .column) = e.sql.isSome
  unfold storageOf
  cases e.sql with
  | none => rfl
  | some t => rfl

/-- The stored fields of a compiled resource are those that the owner of its table declares with
    a type, in the same order. What an extension adds is kept within one of them. -/
theorem stored_decls (hr : resource ds d = .ok r) :
    (r.fields.filter Field.isColumn).map Field.decl = ds.storedFields d := by
  obtain ⟨p, templates, hp, _, rfl⟩ := resource_ok_iff.mp hr
  show ((fieldsOf ds d (p.owner d)).filter Field.isColumn).map Field.decl = _
  rw [hp.owner_eq]
  unfold fieldsOf Declarations.storedFields
  have hcolumn : (Field.isColumn ∘ fun e => fieldOf ds (ds.owner d) (storageOf e) e) =
      fun e => e.sql.isSome := funext fun e => fieldOf_isColumn (ds.owner d) e
  have hdecl : (Field.decl ∘ fun e => fieldOf ds (ds.owner d) (storageOf e) e) = id := rfl
  rw [List.filter_append, List.map_append, List.filter_map, List.map_map, hcolumn, hdecl,
    List.map_id, List.append_right_eq_self, List.map_eq_nil_iff]
  cases d.info.extendsOn with
  | none => rfl
  | some ext =>
    apply List.filter_eq_nil_iff.mpr
    intro f hf
    obtain ⟨e, _, rfl⟩ := List.mem_map.mp hf
    exact Bool.false_ne_true

theorem columnNames_declared (hr : resource ds d = .ok r) :
    r.columnNames = (ds.storedFields d).map (·.name) := by
  rw [← stored_decls hr, List.map_map]
  rfl

/-- The sequence of the key is the declared one, and so is the key. -/
theorem keySequence_declared (hr : resource ds d = .ok r) :
    r.autoincrement.map (r.pk, ·) = ds.keySequence? d := by
  obtain ⟨p, templates, hp, _, rfl⟩ := resource_ok_iff.mp hr
  unfold Declarations.keySequence?
  rw [← hp.owner_eq, hp.pk]
  rfl

theorem generatedKey_declared (hr : resource ds d = .ok r) :
    r.generatedKey = (ds.keySequence? d).map (·.1) := by
  rw [← keySequence_declared hr, Option.map_map]
  rfl

end Compile

namespace Resource

variable {ds : Declarations} {d : ResourceDecl} {r : Resource}

/-- Whatever is changed to a value gets a placeholder for it. Fields of one name share a place, so
    the first of them says how the value is bound. -/
theorem placed_given (hr : Compile.resource ds d = .ok r) {payload : Object} {e : Field × Json}
    (he : e ∈ Change.changed payload r.generatedKey (r.fields.filter Field.isColumn))
    (hne : e.2 ≠ .null) :
    let b := bindAll [] (Change.insertionUses r.toTableView r.autoincrement payload)
    ds.Gives d payload b.params e.1.name
      (.bound (b.place ("i_" ++ e.1.name) (Filter.columnParam e.1 e.2).2)) := by
  intro b
  obtain ⟨hfield, hskip, hv⟩ := Change.mem_changed_iff.mp he
  have hnull : e.2.isNull = false := Filter.isNull_of_ne hne
  obtain ⟨u, hu, hparam⟩ := Change.first_at_changed "i_" Filter.columnParam he hnull []
  obtain ⟨f, hf⟩ := Field.exists_named (List.mem_map_of_mem hfield)
  have hfirst := Change.find?_markedUses_changed "i_" Filter.columnParam hv hnull hskip
    (r.fields.filter Field.isColumn)
  rw [hf] at hfirst
  have hvalue : u.value = (Filter.columnParam f e.2).1 := by
    rw [Option.some.inj (hu.symm.trans hfirst)]
  have hdecl : (ds.storedFields d).find? (·.name = e.1.name) = some f.decl := by
    rw [← Compile.stored_decls hr, List.find?_map]
    exact Option.map_eq_some_iff.mpr ⟨f, hf, rfl⟩
  exact .bound (Compile.generatedKey_declared hr ▸ hskip) hv hne hdecl (Nat.le_add_left 1 _)
    (hparam.trans (congrArg some hvalue)) (Filter.columnParam_encodes f hnull)

/-- The columns of an insert are those that the declaration and the payload say. -/
theorem insertions_columns (hr : Compile.resource ds d = .ok r) (payload : Object) :
    (Change.insertions r.toTableView r.autoincrement payload []).1.map (·.column) =
      ds.insertColumns d payload := by
  have hinserted := r.inserted_columns payload
  rw [Compile.columnNames_declared hr, Compile.generatedKey_declared hr] at hinserted
  rw [Change.insertions_eq]
  exact hinserted

/-- Each column of an insert gets what the declaration and the payload say. -/
theorem insertions_given (hr : Compile.resource ds d = .ok r) (payload : Object) :
    ∀ a ∈ (Change.insertions r.toTableView r.autoincrement payload []).1,
      ds.Gives d payload (Change.insertions r.toTableView r.autoincrement payload []).2.params
        a.column a.value := by
  rw [Change.insertions_eq]
  intro a ha
  rcases List.mem_append.mp ha with ha | ha
  · obtain ⟨sequence, hsequence, rfl⟩ := Option.map_eq_some_iff.mp (Option.mem_toList.mp ha)
    apply Declarations.Gives.next
    rw [← Compile.keySequence_declared hr, hsequence]
    rfl
  · obtain ⟨e, he, rfl⟩ := List.mem_map.mp ha
    obtain ⟨_, hskip, hv⟩ := Change.mem_changed_iff.mp he
    show ds.Gives d payload _ e.1.name (Change.insertedAt _ e.1 e.2)
    unfold Change.insertedAt
    by_cases hne : e.2 = .null
    · rw [hne] at hv ⊢
      exact .null (Compile.generatedKey_declared hr ▸ hskip) hv
    · rw [if_neg (by simp [Filter.isNull_of_ne hne])]
      exact placed_given hr he hne

/-- An insert lists the key, if a sequence is declared for it, and then exactly the other stored
    columns that the payload has, in the order of the declaration. It lists as many values, and
    each value is what its column is given. -/
theorem insert_aligned (hr : Compile.resource ds d = .ok r) (payload : Object) :
    let lists := Change.insertions r.toTableView r.autoincrement payload []
    let columns := ds.insertColumns d payload
    ∃ values : List Assigned,
      Sql.columnList lists.1 = ", ".intercalate (columns.map Sql.quoted) ∧
      Sql.valueList lists.1 = ", ".intercalate (values.map Assigned.render) ∧
      columns.length = values.length ∧
      List.Forall₂ (ds.Gives d payload lists.2.params) columns values := by
  intro lists columns
  have hcolumns : lists.1.map (·.column) = columns := insertions_columns hr payload
  refine ⟨lists.1.map (·.value), ?_, ?_, ?_, ?_⟩
  · rw [← hcolumns, List.map_map]
    rfl
  · rw [List.map_map]
    rfl
  · rw [← hcolumns, List.length_map, List.length_map]
  · rw [← hcolumns, List.forall₂_map_left_iff, List.forall₂_map_right_iff, List.forall₂_same]
    exact insertions_given hr payload

/-- Products that take their keys from a sequence, with a preview that is not stored. -/
def sequenced : ResourceDecl :=
  .plain "Product" "product" [{ FieldDecl.key "id" with autoincrement := some "product_id_seq" },
    .plain "name" .string (some (.simple "text")), .plain "price" .integer (some (.simple "int")),
    .plain "tags" .list (some (.simple "jsonb")), .plain "preview" .string none]

/-- A product with a key of its own and a preview, and without a name. -/
def unnamed : Object :=
  [("id", .ofInt 7), ("name", .null), ("preview", .str "x"), ("price", .ofInt 2),
    ("tags", .arr [.str "new"])]

/-- The key comes from the sequence all the same, and the preview is left out. -/
theorem insert_aligned_product :
    ∃ g, Declarations.resolve [sequenced] = .ok g ∧ ∃ r ∈ g.resources,
      let lists := Change.insertions r.toTableView r.autoincrement unnamed []
      Sql.columnList lists.1 = "\"id\", \"name\", \"price\", \"tags\"" ∧
      Sql.valueList lists.1 = "nextval('product_id_seq'), NULL, $1::int, $2::jsonb" ∧
      lists.2.params = [.text (some "2"), .json (.arr [.str "new"])] ∧
      ∃ values, List.Forall₂ (Declarations.Gives [sequenced] sequenced unnamed lists.2.params)
        ["id", "name", "price", "tags"] values := by
  obtain ⟨g, hg, r, hr, hP⟩ := Compile.exists_resolved [sequenced]
    (fun r =>
      Sql.valueList (Change.insertions r.toTableView r.autoincrement unnamed []).1 =
        "nextval('product_id_seq'), NULL, $1::int, $2::jsonb" ∧
      (Change.insertions r.toTableView r.autoincrement unnamed []).2.params =
        [.text (some "2"), .json (.arr [.str "new"])])
    (by decide +kernel) (by decide +kernel)
  obtain ⟨hvalues, hparams⟩ := of_decide_eq_true hP
  obtain ⟨d, hd, hcompiled⟩ := Compile.mem_resolved hg hr
  obtain rfl := List.mem_singleton.mp hd
  obtain ⟨values, hlist, _, _, hgiven⟩ := insert_aligned hcompiled unnamed
  have hcolumns : Declarations.insertColumns [sequenced] sequenced unnamed =
      ["id", "name", "price", "tags"] := by decide +kernel
  rw [hcolumns] at hlist hgiven
  exact ⟨g, hg, r, hr, hlist.trans (by decide +kernel), hvalues, hparams, values, hgiven⟩

end Resource

end RowServe
