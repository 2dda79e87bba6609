import RowServe.Contract.Pagination
import RowServe.Contract.Validate
import RowServe.Sql.Condition
import RowServe.Sql.Template
import RowServe.Store.Cleanup
import RowServe.Table.Definition

/-!
# Resources

A resource as it is served: its fields with the place where each is stored, the joins
that show rows of other resources, its contracts and its statements.

Results:

* `field?_name`: a field that is found has the name it was looked up under.
-/

namespace RowServe

/-- Where the value of a field is kept. -/
inductive Storage where
  /-- In a column of the table. -/
  | column
  /-- Under a key of a JSON column of the parent. -/
  | extension (column : String)
  /-- Nowhere: the value is checked and then dropped. -/
  | virtual
  deriving DecidableEq, Repr

/-- What a field stands for. -/
inductive FieldKind where
  | scalar
  | foreignKey (table column : String)
  | manyToMany (table column : String)
  /-- The column that holds the fields of a nested extension. -/
  | nestedExtension (child : String)
  deriving DecidableEq, Repr

/-- A field of a resource. -/
structure Field where
  decl : FieldDecl
  kind : FieldKind
  storage : Storage
  /-- The type that bound values are cast to. -/
  cast : Option String

namespace Field

/-- The name of the field. -/
def name (f : Field) : String := f.decl.name

/-- Is it a column of the table? -/
def isColumn (f : Field) : Bool := f.storage = .column

/-- Is it shown unless something else is asked for? -/
def isReadable (f : Field) : Bool := f.storage ≠ .virtual && !f.decl.loadOnly

/-- Does it stand for any number of rows? -/
def isManyToMany (f : Field) : Bool :=
  match f.kind with
  | .manyToMany _ _ => true
  | _ => false

/-- Does it hold the fields of a nested extension? -/
def isNestedExtension (f : Field) : Bool :=
  match f.kind with
  | .nestedExtension _ => true
  | _ => false

/-- Does it stand for one row? -/
def isForeignKey (f : Field) : Bool :=
  match f.kind with
  | .foreignKey _ _ => true
  | _ => false

/-- Is a patch of it merged into the present document? -/
def isMergeable (f : Field) : Bool :=
  f.isNestedExtension ||
    (f.decl.valueType.isCompound && !f.isManyToMany && f.decl.sql.any SqlType.isJsonb)

end Field

/-- How rows of another resource are reached through a foreign key. -/
structure Join where
  field : String
  resource : String
  /-- The table of the foreign key itself. -/
  ownTable : String
  table : String
  column : String
  /-- The stored fields that are shown, and may be filtered by, when one row is read. -/
  getFields : List String
  /-- The same when rows are listed. -/
  listFields : List String
  /-- The casts of the stored fields. -/
  casts : Keyed String

namespace Join

/-- The name of the joined table in statements. -/
def aliasName (j : Join) : String := "j_" ++ j.field

/-- The join in SQL. -/
def sql (j : Join) : String :=
  "LEFT JOIN " ++ Sql.quoted j.table ++ " AS " ++ Sql.quoted j.aliasName ++ " ON " ++
    Sql.qualified j.aliasName j.column ++ " = " ++ Sql.qualified j.ownTable j.field

end Join

/-- What statements are built from: a table, its key, and the fields and joins on it. -/
structure TableView where
  table : String
  pk : String
  fields : List Field
  joins : List Join

namespace TableView

/-- The first field of a name. -/
def field? (v : TableView) (name : String) : Option Field := v.fields.find? (·.name = name)

/-- The first join of a field. -/
def join? (v : TableView) (name : String) : Option Join := v.joins.find? (·.field = name)

/-- Where the value of a field is read. -/
def operand? (v : TableView) (f : Field) : Option Sql.Operand :=
  match f.storage with
  | .column => some (.column v.table f.name)
  | .extension column => some (.key v.table column f.name)
  | .virtual => none

/-- The joins of some fields, in the order in which they are declared. -/
def joinsSql (v : TableView) (active : List String) : String :=
  " ".intercalate ((v.joins.filter fun j => active.contains j.field).map Join.sql)

theorem field?_name {v : TableView} {name : String} {f : Field} (h : v.field? name = some f) :
    f.name = name := by
  simpa using List.find?_some h

end TableView

/-- What each operation accepts. -/
structure Contracts where
  post : Contract
  get : Contract
  list : Contract
  delete : Contract
  update : Contract
  /-- The fields that only a nested extension has. -/
  child : Option Contract
  pagination : PaginationContract

/-- The statements of a resource. Those named `Base` leave open what is shown. -/
structure Templates where
  insert : Sql.Template
  get : Sql.Template
  getBase : Sql.Template
  list : Sql.Template
  listBase : Sql.Template
  update : Sql.Template
  delete : Sql.Template
  deleteDeep : Sql.Template
  /-- Removes deleted keys from the arrays of other tables. -/
  cleanup : Option String
  /-- The fields whose joins the default projections need. -/
  getJoins : List String
  listJoins : List String

/-- A resource as it is served. -/
structure Resource extends TableView where
  name : String
  route : String
  autoincrement : Option String
  /-- The fields that only a nested extension has. -/
  childFields : List String
  extendsOn : Option Extension
  operations : List Operation
  getBy : List String
  listBy : List String
  deleteBy : List String
  excludeFromUpdates : List String
  createViews : Bool
  permissions : Option Permissions
  pkFromSession : Bool
  hookModes : List (Operation × HookMode)
  /-- The columns of other tables that hold keys of this resource. -/
  dependents : List Dependent
  contracts : Contracts
  templates : Templates

namespace Resource

/-- Is it a nested extension? -/
def isKid (r : Resource) : Bool := r.extendsOn.isSome

/-- Does it have the operation? -/
def allows (r : Resource) (op : Operation) : Bool := r.operations.contains op

/-- When the hook behind an operation runs. -/
def hookMode (r : Resource) (op : Operation) : HookMode := (r.hookModes.lookup op).getD .awaited

/-- The column of the parent that holds the fields of a nested extension. -/
def kidColumn (r : Resource) : Option String := r.extendsOn.map (·.column)

/-- Does only the nested extension have the field? -/
def isChildField (r : Resource) (name : String) : Bool := r.childFields.contains name

end Resource

/-- All resources that are served, and the tables that store them. -/
structure Registry where
  resources : List Resource
  tables : List TableDef

namespace Registry

/-- The resource under a route; those without views have none. -/
def byRoute? (g : Registry) (route : String) : Option Resource :=
  g.resources.find? fun r => r.createViews && r.route = route

/-- The resource of a name. -/
def byName? (g : Registry) (name : String) : Option Resource :=
  g.resources.find? (·.name = name)

end Registry

end RowServe
