import RowServe.ConfigError
import RowServe.Declaration.Basic
import RowServe.Json.Reader

/-!
# Reading declarations

Declarations are JSON. A record is an object, where unknown keys are ignored, or the
array of its values in the order of its keys, where values may be left out at the end.
A key with a default may be absent; null counts as absent only where a value is optional.
Types are strict: nothing is converted.
-/

namespace RowServe.Decode

variable {α β : Type}

/-! ## Values -/

/-- A text. -/
def text : Json → Option String := Json.asText?

/-- A truth value. -/
def bool : Json → Option Bool
  | .bool b => some b
  | _ => none

/-- An unsigned integer of 32 bits. -/
def unsigned32 : Json → Option Nat
  | .num (.int i) => if 0 ≤ i ∧ i < 0x100000000 then some i.toNat else none
  | _ => none

/-- Any number, as the nearest binary64 number. -/
def float : Json → Option Binary64
  | .num n => some n.toBinary64
  | _ => none

/-- An array of values of one kind. -/
def list (item : Json → Option α) : Json → Option (List α)
  | .arr items => items.mapM item
  | _ => none

/-- A named constant: its name, or an object with the name as only key and null under it. -/
def named (ofName? : String → Option α) : Json → Option α
  | .str s => ofName? s
  | .obj [(k, .null)] => ofName? k
  | _ => none

/-- An object with named constants as keys. -/
def table (ofName? : String → Option α) (value : Json → Option β) : Json → Option (List (α × β))
  | .obj entries => entries.mapM fun (k, v) => do return (← ofName? k, ← value v)
  | _ => none

/-! ## Records -/

/-- The entries of a record with these keys. -/
def record (keys : List String) : Json → Option Object
  | .obj entries => some entries
  | .arr items =>
    if items.length ≤ keys.length then some (Keyed.ofList (keys.zip items)) else none
  | _ => none

/-- The value of a key that has to be there. -/
def required (m : Object) (key : String) (value : Json → Option α) : Option α :=
  (m.find? key).bind value

/-- The value of a key, or a default if the key is absent. -/
def withDefault (m : Object) (key : String) (value : Json → Option α) (default : α) : Option α :=
  match m.find? key with
  | none => some default
  | some v => value v

/-- The value of a key that may be absent or null. -/
def optional (m : Object) (key : String) (value : Json → Option α) : Option (Option α) :=
  match m.find? key with
  | none | some .null => some none
  | some v => (value v).map some

/-! ## Declarations -/

/-- A column type: its text, or an object with a name and numeric parameters. Where a value
    has several forms, an array never stands for an object. -/
def sqlType : Json → Option SqlType
  | .str s => some (.simple s)
  | .obj m => do
    return .parameterized (← required m "name" text) (← optional m "params" (list unsigned32))
  | _ => none

/-- A validation rule. -/
def rule (v : Json) : Option ValidationRule := do
  let m ← record ["format", "max_length", "min_length", "pattern", "allowed", "minimum",
    "maximum", "not_empty"] v
  return {
    format := ← optional m "format" text
    maxLength := ← optional m "max_length" unsigned32
    minLength := ← optional m "min_length" unsigned32
    pattern := ← optional m "pattern" text
    allowed := ← optional m "allowed" (list some)
    minimum := ← optional m "minimum" float
    maximum := ← optional m "maximum" float
    notEmpty := ← optional m "not_empty" bool }

/-- A field. -/
def field (v : Json) : Option FieldDecl := do
  let m ← record ["name", "type", "items", "sql", "primary_key", "autoincrement", "allow_none",
    "unique", "index", "default", "missing", "read_only", "load_only", "required", "references",
    "many", "validate"] v
  return {
    name := ← required m "name" text
    valueType := ← required m "type" (named ValueType.ofName?)
    items := ← optional m "items" (named ValueType.ofName?)
    sql := ← optional m "sql" sqlType
    primaryKey := ← withDefault m "primary_key" bool false
    autoincrement := ← optional m "autoincrement" text
    allowNone := ← withDefault m "allow_none" bool true
    unique := ← withDefault m "unique" bool false
    index := ← withDefault m "index" bool false
    columnDefault := ← optional m "default" text
    missing := ← optional m "missing" some
    readOnly := ← withDefault m "read_only" bool false
    loadOnly := ← withDefault m "load_only" bool false
    required := ← withDefault m "required" bool false
    references := ← optional m "references" text
    many := ← withDefault m "many" bool false
    rule := ← withDefault m "validate" rule .any }

/-- Who may use an operation: an array of roles, or an object with a predicate. -/
def access : Json → Option Access
  | .obj m => (required m "predicate" text).map .predicate
  | v => (list text v).map .roles

/-- The permissions of a resource. -/
def permissions (v : Json) : Option Permissions := do
  let m ← record ["public", "authenticated"] v
  return {
    «public» := ← withDefault m "public" (list (named Operation.ofName?)) []
    authenticated := ← withDefault m "authenticated" (table Operation.ofName? access) [] }

/-- The place of a nested extension. -/
def extension (v : Json) : Option Extension := do
  let m ← record ["parent", "column"] v
  return { parent := ← required m "parent" text, column := ← required m "column" text }

/-- The meta section of a resource. -/
def info (v : Json) : Option ResourceMeta := do
  let m ← record ["route", "get_by", "list_by", "delete_by", "excluded_ops",
    "exclude_from_updates", "create_views", "permissions", "pk_from_session", "hook_modes",
    "unique_together", "extends_on"] v
  return {
    route := ← optional m "route" text
    getBy := ← optional m "get_by" (list text)
    listBy := ← optional m "list_by" (list text)
    deleteBy := ← optional m "delete_by" (list text)
    excludedOps := ← withDefault m "excluded_ops" (list (named Operation.ofName?)) []
    excludeFromUpdates := ← withDefault m "exclude_from_updates" (list text) []
    createViews := ← withDefault m "create_views" bool true
    permissions := ← optional m "permissions" permissions
    pkFromSession := ← withDefault m "pk_from_session" bool false
    hookModes := ←
      withDefault m "hook_modes" (table Operation.ofName? (named HookMode.ofName?)) []
    uniqueTogether := ← withDefault m "unique_together" (list (list text)) []
    extendsOn := ← optional m "extends_on" extension }

/-- A resource. -/
def resource (v : Json) : Option ResourceDecl := do
  let m ← record ["name", "table", "fields", "meta"] v
  return {
    name := ← required m "name" text
    table := ← optional m "table" text
    fields := ← required m "fields" (list field)
    info := ← withDefault m "meta" info .plain }

/-- Resources: an array of them, an object with that array under `resources`, or one
    resource. -/
def resources : Json → Option Declarations
  | .arr items => items.mapM resource
  | .obj m =>
    if Keyed.has "resources" m then required m "resources" (list resource)
    else (resource (.obj m)).map fun r => [r]
  | _ => none

end RowServe.Decode

namespace RowServe.Declarations

/-- The declarations in a JSON text. -/
def parse (text : String) : Except ConfigError Declarations :=
  match (Json.parse? text).bind Decode.resources with
  | some ds => .ok ds
  | none => .error .unreadable

end RowServe.Declarations
