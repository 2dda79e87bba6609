import RowServe.Declaration.SqlType
import RowServe.Json.Basic
import RowServe.Text.Split

/-!
# Resource declarations

What a service is declared to serve: resources with their fields, the lists that say
what may be read, filtered and changed, and who may do it.

Results:

* `field?_name`: a field that is found has the name it was looked up under.
-/

namespace RowServe

/-- The operations of a resource. -/
inductive Operation where
  | get | list | post | put | patch | delete
  deriving DecidableEq, Repr

namespace Operation

/-- The operations in their fixed order. -/
def all : List Operation := [get, list, post, put, patch, delete]

/-- The name of an operation. -/
def name : Operation → String
  | get => "get"
  | list => "list"
  | post => "post"
  | put => "put"
  | patch => "patch"
  | delete => "delete"

/-- The operation of a name. -/
def ofName? (s : String) : Option Operation := all.find? (·.name = s)

end Operation

/-- The types of values that contracts know. -/
inductive ValueType where
  | integer | float | string | boolean | date | datetime | uuid | list | dict
  deriving DecidableEq, Repr

namespace ValueType

/-- The types in their fixed order. -/
def all : List ValueType :=
  [integer, float, string, boolean, date, datetime, uuid, list, dict]

/-- The name of a type. -/
def name : ValueType → String
  | integer => "integer"
  | float => "float"
  | string => "string"
  | boolean => "boolean"
  | date => "date"
  | datetime => "datetime"
  | uuid => "uuid"
  | list => "list"
  | dict => "dict"

/-- The type of a name. -/
def ofName? (s : String) : Option ValueType := all.find? (·.name = s)

/-- Numbers. -/
def isNumeric : ValueType → Bool
  | integer | float => true
  | _ => false

/-- Lists and dictionaries, which are stored as JSON documents. -/
def isCompound : ValueType → Bool
  | list | dict => true
  | _ => false

end ValueType

/-- What a value has to satisfy beyond its type. Every part is optional. -/
structure ValidationRule where
  format : Option String
  maxLength : Option Nat
  minLength : Option Nat
  pattern : Option String
  allowed : Option (List Json)
  minimum : Option Binary64
  maximum : Option Binary64
  notEmpty : Option Bool
  deriving DecidableEq

/-- The rule that allows everything. -/
def ValidationRule.any : ValidationRule := ⟨none, none, none, none, none, none, none, none⟩

/-- A declared field. -/
structure FieldDecl where
  name : String
  valueType : ValueType
  /-- The type of the items of a list. -/
  items : Option ValueType
  /-- The column type; a field without one is computed and never stored. -/
  sql : Option SqlType
  primaryKey : Bool
  /-- The sequence that feeds the primary key. -/
  autoincrement : Option String
  allowNone : Bool
  unique : Bool
  index : Bool
  /-- The default of the column, an SQL expression. -/
  columnDefault : Option String
  /-- The value a create request gets for the field if it sends none. -/
  missing : Option Json
  readOnly : Bool
  /-- Taken as input and never shown. -/
  loadOnly : Bool
  required : Bool
  /-- The `table.column` a foreign key or a list of keys refers to. -/
  references : Option String
  many : Bool
  rule : ValidationRule
  deriving DecidableEq

namespace FieldDecl

/-- The table and the column a field refers to, on either side of the first point. -/
def target? (d : FieldDecl) : Option (String × String) := do
  let r ← d.references
  let (table, column) ← Text.splitOnce '.' r.toList
  return (String.ofList table, String.ofList column)

/-- Does the field refer to one row? -/
def isForeignKey (d : FieldDecl) : Bool := d.references.isSome && !d.many

/-- Does the field refer to any number of rows? -/
def isManyToMany (d : FieldDecl) : Bool := d.references.isSome && d.many

end FieldDecl

/-- When a hook that follows a write runs. -/
inductive HookMode where
  /-- Before the response; its failure is the failure of the request. -/
  | awaited
  /-- Beside the response; its failure is only reported. -/
  | background
  deriving DecidableEq, Repr

/-- The name of a mode. -/
def HookMode.name : HookMode → String
  | awaited => "awaited"
  | background => "background"

/-- The mode of a name. -/
def HookMode.ofName? (s : String) : Option HookMode := [awaited, background].find? (·.name = s)

/-- Who of those with a session may use an operation. -/
inductive Access where
  | roles (names : List String)
  | predicate (name : String)
  deriving DecidableEq, Repr

/-- The operations open to everybody, and those open to some sessions. -/
structure Permissions where
  «public» : List Operation
  authenticated : List (Operation × Access)
  deriving DecidableEq, Repr

/-- A nested extension: fields kept inside a JSON column of another resource. -/
structure Extension where
  parent : String
  column : String
  deriving DecidableEq, Repr

/-- What a resource declares beside its fields. -/
structure ResourceMeta where
  route : Option String
  getBy : Option (List String)
  listBy : Option (List String)
  deleteBy : Option (List String)
  excludedOps : List Operation
  excludeFromUpdates : List String
  createViews : Bool
  permissions : Option Permissions
  /-- The primary key of a new row is the actor of the session. -/
  pkFromSession : Bool
  hookModes : List (Operation × HookMode)
  uniqueTogether : List (List String)
  extendsOn : Option Extension
  deriving DecidableEq

/-- The meta section of a resource that declares none. -/
def ResourceMeta.plain : ResourceMeta :=
  ⟨none, none, none, none, [], [], true, none, false, [], [], none⟩

/-- A declared resource. -/
structure ResourceDecl where
  name : String
  table : Option String
  fields : List FieldDecl
  info : ResourceMeta
  deriving DecidableEq

namespace ResourceDecl

/-- The declared table, or the name in lower case. -/
def tableName (r : ResourceDecl) : String := r.table.getD (Text.toLower r.name)

/-- The declared route, or the name in lower case. -/
def route (r : ResourceDecl) : String := r.info.route.getD (Text.toLower r.name)

/-- The first field of a name. -/
def field? (r : ResourceDecl) (name : String) : Option FieldDecl :=
  r.fields.find? (·.name = name)

/-- Is there a field of this name? -/
def hasField (r : ResourceDecl) (name : String) : Bool := (r.field? name).isSome

/-- The first field declared as primary key. -/
def primaryKey? (r : ResourceDecl) : Option FieldDecl := r.fields.find? (·.primaryKey)

/-- Does the resource live inside a column of another one? -/
def isKid (r : ResourceDecl) : Bool := r.info.extendsOn.isSome

theorem field?_name {r : ResourceDecl} {name : String} {d : FieldDecl}
    (h : r.field? name = some d) : d.name = name := by
  simpa using List.find?_some h

end ResourceDecl

/-- All declared resources in the order of registration. -/
abbrev Declarations := List ResourceDecl

namespace Declarations

/-- The first resource of a name. -/
def byName? (ds : Declarations) (name : String) : Option ResourceDecl := ds.find? (·.name = name)

/-- The first resource that owns a table; resources inside others own none. -/
def byTable? (ds : Declarations) (table : String) : Option ResourceDecl :=
  ds.find? fun r => !r.isKid && r.tableName = table

end Declarations

end RowServe
