import RowServe.ConfigError
import RowServe.Declaration.Basic
import RowServe.Sql.Identifier

/-!
# Table definitions

The table a resource is stored in: a column for each field with a type. Resources that
live inside another one have no table of their own.

Results:

* `ofDecl_kid`: a resource inside another one has no table.
-/

namespace RowServe

/-- A column of a table. -/
structure ColumnDef where
  name : String
  sqlType : String
  nullable : Bool
  default : Option String
  primaryKey : Bool
  unique : Bool
  index : Bool
  /-- The sequence that feeds the default of the column. -/
  sequence : Option String
  /-- The table and column a foreign key refers to. -/
  references : Option (String × String)
  deriving DecidableEq, Repr

namespace ColumnDef

/-- The column of a stored field. -/
def ofDecl? (d : FieldDecl) : Option ColumnDef :=
  d.sql.map fun sql =>
    { name := d.name
      sqlType := sql.text
      nullable := d.allowNone && !d.primaryKey
      default := d.columnDefault
      primaryKey := d.primaryKey
      unique := d.unique
      index := d.index
      sequence := if d.primaryKey then d.autoincrement else none
      references := if d.isForeignKey then d.target? else none }

/-- The default of a column: the next value of its sequence before a declared one. -/
def defaultSql (c : ColumnDef) : String :=
  match c.sequence, c.default with
  | some seq, _ => " DEFAULT nextval(" ++ Sql.literal seq ++ ")"
  | none, some d => " DEFAULT " ++ d
  | none, none => ""

/-- The column inside a table definition. -/
def sql (c : ColumnDef) : String :=
  Sql.quoted c.name ++ " " ++ c.sqlType ++
    (if c.primaryKey then " PRIMARY KEY" else if c.nullable then "" else " NOT NULL") ++
    c.defaultSql ++ (if c.unique && !c.primaryKey then " UNIQUE" else "")

end ColumnDef

/-- The table of a resource. -/
structure TableDef where
  resource : String
  name : String
  columns : List ColumnDef
  uniqueTogether : List (List String)
  deriving DecidableEq, Repr

namespace TableDef

/-- The first column that is a primary key. -/
def primaryKey? (t : TableDef) : Option ColumnDef := t.columns.find? (·.primaryKey)

/-- The sequences of the columns. -/
def sequences (t : TableDef) : List String := t.columns.filterMap (·.sequence)

/-- A group of columns whose values together are unique. -/
def groupSql (group : List String) : String :=
  "UNIQUE (" ++ ", ".intercalate (group.map Sql.quoted) ++ ")"

/-- The statement that creates the table, without its foreign keys. -/
def createSql (t : TableDef) : String :=
  "CREATE TABLE IF NOT EXISTS " ++ Sql.quoted t.name ++ " (\n  " ++
    ",\n  ".intercalate (t.columns.map ColumnDef.sql ++ t.uniqueTogether.map groupSql) ++ "\n)"

/-- The columns with an index of their own: unique ones have one already. -/
def indexed (t : TableDef) : List ColumnDef :=
  t.columns.filter fun c => c.index && !c.unique && !c.primaryKey

/-- The name of the index of a column. -/
def indexName (t : TableDef) (c : ColumnDef) : String := "ix_" ++ t.name ++ "_" ++ c.name

/-- The statements that create the indexes. -/
def indexSql (t : TableDef) : List String :=
  t.indexed.map fun c =>
    "CREATE INDEX IF NOT EXISTS " ++ Sql.quoted (t.indexName c) ++ " ON " ++ Sql.quoted t.name ++
      " (" ++ Sql.quoted c.name ++ ")"

/-- The statements that add the foreign keys, each one harmless if the key is there. -/
def foreignKeySql (t : TableDef) : List String :=
  t.columns.filterMap fun c =>
    c.references.map fun (table, column) =>
      "DO $$ BEGIN\n  ALTER TABLE " ++ Sql.quoted t.name ++ " ADD CONSTRAINT " ++
        Sql.quoted ("fk_" ++ t.name ++ "_" ++ c.name) ++ " FOREIGN KEY (" ++ Sql.quoted c.name ++
        ") REFERENCES " ++ Sql.quoted table ++ " (" ++ Sql.quoted column ++
        ");\nEXCEPTION WHEN duplicate_object THEN NULL;\nEND $$"

/-- Exactly one field is the primary key, and it is stored. -/
def checkKey (r : ResourceDecl) : Except ConfigError Unit :=
  match r.fields.filter (·.primaryKey) with
  | [] => .error (.invalidPrimaryKey r.name .missing)
  | [key] =>
    if key.sql.isSome then .ok () else .error (.invalidPrimaryKey r.name .notStored)
  | _ => .error (.invalidPrimaryKey r.name .repeated)

/-- The table of a resource, if it has one of its own. -/
def ofDecl (r : ResourceDecl) : Except ConfigError (Option TableDef) :=
  if r.isKid then .ok none
  else
    match checkKey r with
    | .error e => .error e
    | .ok () =>
      .ok (some ⟨r.name, r.tableName, r.fields.filterMap ColumnDef.ofDecl?, r.info.uniqueTogether⟩)

/-- The tables of all resources in the order of registration. -/
def ofDecls : Declarations → Except ConfigError (List TableDef)
  | [] => .ok []
  | r :: rest => do
    let table ← ofDecl r
    let others ← ofDecls rest
    return table.toList ++ others

theorem ofDecl_kid {r : ResourceDecl} (h : r.isKid = true) : ofDecl r = .ok none := by
  simp [ofDecl, h]

end TableDef

end RowServe
