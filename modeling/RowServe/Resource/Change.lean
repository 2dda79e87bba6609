import RowServe.Resource.Filter

/-!
# Changes

A payload as the values that an update or an insert writes. Only columns are written,
in the declared order of the fields, and only those that the payload has.

Results:

* `assignments_eq_nil_iff`, `insertions_eq_nil_iff`: when there is nothing to write.
-/

namespace RowServe.Change

/-- The value an update gives a column. A patch is merged into documents; a nested
    extension keeps the keys of its column that the payload does not have. -/
def assigned (view : TableView) (op : Operation) (kidColumn : Option String) (f : Field)
    (v : Json) (b : Sql.Binds) : Sql.Assigned × Sql.Binds :=
  let name := "u_" ++ f.name
  let current := Sql.Operand.column view.table f.name
  match v with
  | .null => (.null, b)
  | v =>
    if op = .patch && f.isMergeable then
      let (p, b) := Sql.Binds.bind b name (.json v) (some "jsonb")
      (.merged current p, b)
    else if kidColumn = some f.name then
      let (p, b) := Sql.Binds.bind b name (.json v) (some "jsonb")
      (.extended current p, b)
    else
      let (p, b) := Filter.bindField b name f v
      (.bound p, b)

/-- The assignments of an update for some of the fields. -/
def assignmentsOf (view : TableView) (payload : Object) (op : Operation)
    (kidColumn : Option String) : List Field → Sql.Binds → List Sql.Assignment × Sql.Binds
  | [], b => ([], b)
  | f :: rest, b =>
    match payload.find? f.name with
    | none => assignmentsOf view payload op kidColumn rest b
    | some v =>
      if f.name = view.pk then assignmentsOf view payload op kidColumn rest b
      else
        let (value, b) := assigned view op kidColumn f v b
        let (others, b) := assignmentsOf view payload op kidColumn rest b
        (⟨f.name, value⟩ :: others, b)

/-- The assignments of an update. -/
def assignments (view : TableView) (payload : Object) (op : Operation)
    (kidColumn : Option String) (b : Sql.Binds) : List Sql.Assignment × Sql.Binds :=
  assignmentsOf view payload op kidColumn (view.fields.filter Field.isColumn) b

/-- The value an insert gives a column. -/
def inserted (f : Field) (v : Json) (b : Sql.Binds) : Sql.Assigned × Sql.Binds :=
  match v with
  | .null => (.null, b)
  | v =>
    let (p, b) := Filter.bindField b ("i_" ++ f.name) f v
    (.bound p, b)

/-- The values of an insert for some of the fields; `skip` is a column that has its value
    already. -/
def insertionsOf (payload : Object) (skip : Option String) :
    List Field → Sql.Binds → List Sql.Assignment × Sql.Binds
  | [], b => ([], b)
  | f :: rest, b =>
    if skip = some f.name then insertionsOf payload skip rest b
    else
      match payload.find? f.name with
      | none => insertionsOf payload skip rest b
      | some v =>
        let (value, b) := inserted f v b
        let (others, b) := insertionsOf payload skip rest b
        (⟨f.name, value⟩ :: others, b)

/-- The values of an insert. A key with a sequence takes the next value of it, whatever
    the payload says. -/
def insertions (view : TableView) (autoincrement : Option String) (payload : Object)
    (b : Sql.Binds) : List Sql.Assignment × Sql.Binds :=
  let columns := view.fields.filter Field.isColumn
  match autoincrement with
  | none => insertionsOf payload none columns b
  | some sequence =>
    let (others, b) := insertionsOf payload (some view.pk) columns b
    (⟨view.pk, .next sequence⟩ :: others, b)

/-! ## Nothing to write -/

section Nothing

variable {view : TableView} {payload : Object} {b : Sql.Binds}

theorem assignmentsOf_eq_nil_iff {op : Operation} {kidColumn : Option String}
    {fields : List Field} :
    (assignmentsOf view payload op kidColumn fields b).1 = [] ↔
      ∀ f ∈ fields, f.name ≠ view.pk → payload.find? f.name = none := by
  induction fields with
  | nil => simp [assignmentsOf]
  | cons f fields ih =>
    rw [assignmentsOf, List.forall_mem_cons]
    cases payload.find? f.name with
    | none => simpa using ih
    | some v =>
      by_cases hkey : f.name = view.pk
      · simpa [hkey] using ih
      · simp [hkey]

theorem assignments_eq_nil_iff {op : Operation} {kidColumn : Option String} :
    (assignments view payload op kidColumn b).1 = [] ↔
      ∀ f ∈ view.fields.filter Field.isColumn, f.name ≠ view.pk →
        payload.find? f.name = none :=
  assignmentsOf_eq_nil_iff

theorem insertionsOf_eq_nil_iff {fields : List Field} :
    (insertionsOf payload none fields b).1 = [] ↔
      ∀ f ∈ fields, payload.find? f.name = none := by
  induction fields with
  | nil => simp [insertionsOf]
  | cons f fields ih =>
    rw [insertionsOf, if_neg nofun, List.forall_mem_cons]
    cases payload.find? f.name with
    | none => simpa using ih
    | some v => simp

theorem insertions_eq_nil_iff {autoincrement : Option String} :
    (insertions view autoincrement payload b).1 = [] ↔
      autoincrement = none ∧
        ∀ f ∈ view.fields.filter Field.isColumn, payload.find? f.name = none := by
  cases autoincrement with
  | none =>
    exact ⟨fun h => ⟨rfl, insertionsOf_eq_nil_iff.mp h⟩,
      fun h => insertionsOf_eq_nil_iff.mpr h.2⟩
  | some sequence => simp [insertions]

end Nothing

end RowServe.Change
