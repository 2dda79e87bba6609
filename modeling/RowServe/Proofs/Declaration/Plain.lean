import RowServe.Declaration.Basic

/-!
# Plain declarations

Declarations that leave out all that may be left out. Examples are made of them, and say
only what they are about.
-/

namespace RowServe

/-- A field with a name, a type and a column type, if it is stored. -/
def FieldDecl.plain (name : String) (valueType : ValueType) (sql : Option SqlType) : FieldDecl :=
  { name := name, valueType := valueType, items := none, sql := sql, primaryKey := false
    autoincrement := none, allowNone := true, unique := false, index := false
    columnDefault := none, missing := none, readOnly := false, loadOnly := false
    required := false, references := none, many := false, rule := .any }

/-- A stored integer that is the primary key. -/
def FieldDecl.key (name : String) : FieldDecl :=
  { FieldDecl.plain name .integer (some (.simple "int")) with primaryKey := true }

/-- A stored integer that refers to a column of another table. -/
def FieldDecl.link (name target : String) : FieldDecl :=
  { FieldDecl.plain name .integer (some (.simple "int")) with references := some target }

/-- A resource with a table, which is also its route. -/
def ResourceDecl.plain (name table : String) (fields : List FieldDecl) : ResourceDecl :=
  ⟨name, some table, fields, { ResourceMeta.plain with route := some table }⟩

namespace Declarations

/-- Products that refer to their producer, and may be found by it. -/
def shop : Declarations :=
  [.plain "Producer" "producer"
    [.key "id", { FieldDecl.plain "name" .string (some (.simple "text")) with unique := true }],
    { ResourceDecl.plain "Product" "product" [.key "id", .link "producer" "producer.id"] with
      info := { ResourceMeta.plain with
        route := some "product"
        getBy := some ["id", "producer"] } }]

/-- Actors with a document of details. -/
def actors : ResourceDecl :=
  .plain "Actor" "actor" [.key "id", .plain "name" .string (some (.simple "text")),
    .plain "details" .dict (some (.simple "jsonb"))]

/-- Operators, who are actors with a city and a rating among their details. -/
def operators : ResourceDecl :=
  ⟨"Operator", none, [.plain "city" .string none, .plain "rating" .integer none],
    { ResourceMeta.plain with
      route := some "operator"
      extendsOn := some ⟨"Actor", "details"⟩ }⟩

/-- Actors and operators. -/
def staff : Declarations := [actors, operators]

end Declarations

end RowServe
