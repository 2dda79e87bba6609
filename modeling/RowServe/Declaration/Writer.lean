import RowServe.Declaration.Basic

/-!
# Writing declarations

A declaration as JSON with every key present: defaults are written out, and what is
optional and absent is null.
-/

namespace RowServe

/-- A text, or null. -/
def Json.ofText? : Option String → Json := Json.ofOption .str

/-- A natural number. -/
def Json.ofNat (n : Nat) : Json := Json.ofInt n

/-- An array of operation names. -/
def Operation.listToJson (ops : List Operation) : Json := .ofTexts (ops.map Operation.name)

/-- A column type as it is declared. -/
def SqlType.toJson : SqlType → Json
  | simple s => .str s
  | parameterized name params =>
    .ofEntries [("name", .str name),
      ("params", .ofOption (fun ps => .arr (ps.map Json.ofNat)) params)]

/-- A validation rule; bounds are written as binary64 numbers. -/
def ValidationRule.toJson (r : ValidationRule) : Json :=
  .ofEntries [
    ("format", .ofText? r.format),
    ("max_length", .ofOption .ofNat r.maxLength),
    ("min_length", .ofOption .ofNat r.minLength),
    ("pattern", .ofText? r.pattern),
    ("allowed", .ofOption .arr r.allowed),
    ("minimum", .ofOption (fun x => .num (.float x)) r.minimum),
    ("maximum", .ofOption (fun x => .num (.float x)) r.maximum),
    ("not_empty", .ofOption .bool r.notEmpty)]

/-- A field. -/
def FieldDecl.toJson (d : FieldDecl) : Json :=
  .ofEntries [
    ("name", .str d.name),
    ("type", .str d.valueType.name),
    ("items", .ofText? (d.items.map ValueType.name)),
    ("sql", .ofOption SqlType.toJson d.sql),
    ("primary_key", .bool d.primaryKey),
    ("autoincrement", .ofText? d.autoincrement),
    ("allow_none", .bool d.allowNone),
    ("unique", .bool d.unique),
    ("index", .bool d.index),
    ("default", .ofText? d.columnDefault),
    ("missing", d.missing.getD .null),
    ("read_only", .bool d.readOnly),
    ("load_only", .bool d.loadOnly),
    ("required", .bool d.required),
    ("references", .ofText? d.references),
    ("many", .bool d.many),
    ("validate", d.rule.toJson)]

/-- Who may use an operation. -/
def Access.toJson : Access → Json
  | roles names => .ofTexts names
  | predicate name => .ofEntries [("predicate", .str name)]

/-- The permissions of a resource. -/
def Permissions.toJson (p : Permissions) : Json :=
  .ofEntries [
    ("public", Operation.listToJson p.«public»),
    ("authenticated", .ofEntries (p.authenticated.map fun (op, a) => (op.name, a.toJson)))]

/-- The place of a nested extension. -/
def Extension.toJson (e : Extension) : Json :=
  .ofEntries [("parent", .str e.parent), ("column", .str e.column)]

/-- The meta section of a resource. -/
def ResourceMeta.toJson (m : ResourceMeta) : Json :=
  .ofEntries [
    ("route", .ofText? m.route),
    ("get_by", .ofOption .ofTexts m.getBy),
    ("list_by", .ofOption .ofTexts m.listBy),
    ("delete_by", .ofOption .ofTexts m.deleteBy),
    ("excluded_ops", Operation.listToJson m.excludedOps),
    ("exclude_from_updates", .ofTexts m.excludeFromUpdates),
    ("create_views", .bool m.createViews),
    ("permissions", .ofOption Permissions.toJson m.permissions),
    ("pk_from_session", .bool m.pkFromSession),
    ("hook_modes", .ofEntries (m.hookModes.map fun (op, mode) => (op.name, .str mode.name))),
    ("unique_together", .arr (m.uniqueTogether.map .ofTexts)),
    ("extends_on", .ofOption Extension.toJson m.extendsOn)]

/-- A resource. -/
def ResourceDecl.toJson (r : ResourceDecl) : Json :=
  .ofEntries [
    ("name", .str r.name),
    ("table", .ofText? r.table),
    ("fields", .arr (r.fields.map FieldDecl.toJson)),
    ("meta", r.info.toJson)]

end RowServe
