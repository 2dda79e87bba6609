import RowServe.Resource.Basic

/-!
# Filters

A filter object as the conditions of a statement. Fields of JSON documents come first,
then fields of linked rows, then plain columns; within each group the declared order of
the fields counts.
-/

namespace RowServe

/-- How linked rows are reached. -/
inductive WhereMode where
  /-- Through the joins of a statement that reads. -/
  | select
  /-- Through a subquery, in a statement that writes. -/
  | mutate
  deriving DecidableEq, Repr

/-- One condition of a filter, with the field it is about. -/
structure Conjunct where
  field : String
  condition : Sql.Condition
  /-- Does the condition read through the join of the field? -/
  viaJoin : Bool
  deriving DecidableEq, Repr

namespace Filter

/-- The groups of conditions, in the order in which they are written. -/
inductive Group where
  | document | linked | flat
  deriving DecidableEq, Repr

/-- Is the value an object? -/
def isObject : Json → Bool
  | .obj _ => true
  | _ => false

/-- The group of a field with a value. -/
def groupOf (f : Field) (v : Json) : Group :=
  match f.storage, f.kind with
  | .extension _, _ => .document
  | _, .manyToMany _ _ => .document
  | _, .nestedExtension _ => if isObject v then .document else .flat
  | _, .foreignKey _ _ => if isObject v then .linked else .flat
  | _, .scalar => .flat

/-- The fields that a filter names, with their values, in declared order. -/
def present (fields : List Field) (payload : Object) : List (Field × Json) :=
  fields.filterMap fun f => (payload.find? f.name).map (f, ·)

/-- The same by groups. -/
def inGroups (entries : List (Field × Json)) : List (Field × Json) :=
  [Group.document, .linked, .flat].flatMap fun g => entries.filter fun (f, v) => groupOf f v = g

/-- A value as the list that a document has to hold all of. -/
def asList : Json → Json
  | .arr items => .arr items
  | v => .arr [v]

/-- Binds a value for a column: a compound one as a document, a scalar with its cast. -/
def bindField (b : Sql.Binds) (name : String) (f : Field) (v : Json) :
    Sql.Placeholder × Sql.Binds :=
  let document := Sql.Binds.bind b name (.json v) (some "jsonb")
  match v with
  | .arr _ | .obj _ => document
  | v =>
    if f.decl.valueType.isCompound then document
    else Sql.Binds.bind b name (.scalar v) f.cast

/-- The condition on a field kept inside a document. -/
def extensionCondition (f : Field) (x : Sql.Operand) (v : Json) (b : Sql.Binds) :
    Sql.Condition × Sql.Binds :=
  match v with
  | .null => (.isJsonNull x, b)
  | v =>
    if f.decl.valueType.isNumeric then
      let (p, b) := Sql.Binds.bind b f.name (.json v) (some "jsonb")
      (.compare (.equals x p), b)
    else if f.decl.valueType = .list then
      let (p, b) := Sql.Binds.bind b f.name (.json (asList v)) (some "jsonb")
      (.contains x p, b)
    else
      let (p, b) := Sql.Binds.bind b f.name (.asText v) none
      (.hasText x p, b)

/-- Binds the value for a column of a linked row. -/
def bindLinked (b : Sql.Binds) (name : String) (cast : Option String) (v : Json) :
    Sql.Placeholder × Sql.Binds :=
  match v with
  | .arr _ | .obj _ => Sql.Binds.bind b name (.json v) (some "jsonb")
  | v => Sql.Binds.bind b name (.scalar v) cast

/-- The comparisons of columns of a linked row; `source` names its table. -/
def linkedComparisons (source field : String) (casts : Keyed String) :
    List (String × Json) → Sql.Binds → List Sql.Comparison × Sql.Binds
  | [], b => ([], b)
  | (key, .null) :: rest, b =>
    let (cs, b) := linkedComparisons source field casts rest b
    (.isNull (.column source key) :: cs, b)
  | (key, v) :: rest, b =>
    let (p, b) := bindLinked b (field ++ "_" ++ key) (casts.find? key) v
    let (cs, b) := linkedComparisons source field casts rest b
    (.equals (.column source key) p :: cs, b)

/-- The conditions on a linked row. -/
def linkedConjuncts (j : Join) (x : Sql.Operand) (mode : WhereMode) (entries : Object)
    (b : Sql.Binds) : List Conjunct × Sql.Binds :=
  match mode with
  | .select =>
    let (cs, b) := linkedComparisons j.aliasName j.field j.casts entries b
    (cs.map fun c => ⟨j.field, .compare c, true⟩, b)
  | .mutate =>
    let (cs, b) := linkedComparisons j.table j.field j.casts entries b
    (if cs.isEmpty then [] else [⟨j.field, .among x j.table j.column cs, false⟩], b)

/-- The condition on a column itself. -/
def flatConjunct (f : Field) (x : Sql.Operand) (v : Json) (b : Sql.Binds) :
    List Conjunct × Sql.Binds :=
  match v with
  | .null => ([⟨f.name, .compare (.isNull x), false⟩], b)
  | v =>
    let (p, b) := bindField b ("w_" ++ f.name) f v
    ([⟨f.name, .compare (.equals x p), false⟩], b)

/-- A document that has to hold all of another one. -/
def containsConjunct (f : Field) (x : Sql.Operand) (v : Json) (b : Sql.Binds) :
    List Conjunct × Sql.Binds :=
  let (p, b) := Sql.Binds.bind b f.name (.json v) (some "jsonb")
  ([⟨f.name, .contains x p, false⟩], b)

/-- The conditions of one entry of a filter. A field that is stored nowhere has none, and
    neither has an object for a linked row without a join. -/
def entryConjuncts (view : TableView) (mode : WhereMode) (f : Field) (v : Json)
    (b : Sql.Binds) : List Conjunct × Sql.Binds :=
  match view.operand? f with
  | none => ([], b)
  | some x =>
    match f.storage, f.kind, v with
    | .extension _, _, v =>
      let (c, b) := extensionCondition f x v b
      ([⟨f.name, c, false⟩], b)
    | _, .manyToMany _ _, v => containsConjunct f x (asList v) b
    | _, .nestedExtension _, .obj entries => containsConjunct f x (.obj entries) b
    | _, .foreignKey _ _, .obj entries =>
      match view.join? f.name with
      | none => ([], b)
      | some j => linkedConjuncts j x mode entries b
    | _, _, v => flatConjunct f x v b

/-- The conditions of several entries, one after the other. -/
def conjuncts (view : TableView) (mode : WhereMode) :
    List (Field × Json) → Sql.Binds → List Conjunct × Sql.Binds
  | [], b => ([], b)
  | (f, v) :: rest, b =>
    let (cs, b) := entryConjuncts view mode f v b
    let (ds, b) := conjuncts view mode rest b
    (cs ++ ds, b)

end Filter

/-- The conditions of a statement. -/
structure WhereClause where
  conjuncts : List Conjunct
  deriving DecidableEq, Repr

namespace WhereClause

/-- The conditions in SQL. -/
def sql (w : WhereClause) : String := Sql.allText (w.conjuncts.map (·.condition))

/-- The fields whose joins the conditions read through. -/
def joins (w : WhereClause) : List String := (w.conjuncts.filter (·.viaJoin)).map (·.field)

/-- The conditions of a filter, and the parameters with those of the filter added. -/
def ofFilter (view : TableView) (payload : Object) (mode : WhereMode) (b : Sql.Binds) :
    WhereClause × Sql.Binds :=
  let (cs, b) :=
    Filter.conjuncts view mode (Filter.inGroups (Filter.present view.fields payload)) b
  (⟨cs⟩, b)

end WhereClause

end RowServe
