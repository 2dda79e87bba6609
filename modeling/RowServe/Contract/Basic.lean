import RowServe.ConfigError
import RowServe.Declaration.Basic
import RowServe.FieldErrors
import RowServe.Pattern.Reader

/-!
# Contracts

What an operation accepts: the fields of an object, each with its type, its rule and a
shape for values that stand for rows of other resources or for nested objects.

Results:

* `ofDecl_name`: a field keeps its declared name.
-/

namespace RowServe

/-- What a contract knows about one field. -/
structure FieldSpec where
  name : String
  valueType : ValueType
  items : Option ValueType
  allowNone : Bool
  required : Bool
  missing : Option Json
  rule : ValidationRule
  /-- The search pattern of the rule. -/
  pattern : Option Pattern

/-- How a value is read beyond its type. -/
inductive Shape where
  | plain
  /-- The key of a row. -/
  | link
  /-- The key of a row, or an object of fields of that row. -/
  | lookup (complete : Bool) (fields : List (FieldSpec × Shape))
  /-- An array of keys; a filter also takes a single key. -/
  | links (acceptScalar : Bool)
  /-- An object with a contract of its own. -/
  | nested (complete : Bool) (fields : List (FieldSpec × Shape))

/-- What an operation accepts. A complete contract enforces required fields and fills in
    missing ones; a partial one takes any part of its fields. -/
structure Contract where
  complete : Bool
  fields : List (FieldSpec × Shape)

namespace FieldSpec

/-- What a declared field asks of its values. -/
def ofDecl (d : FieldDecl) : Except ConfigError FieldSpec :=
  let spec (pattern : Option Pattern) : FieldSpec :=
    { name := d.name, valueType := d.valueType, items := d.items, allowNone := d.allowNone
      required := d.required, missing := d.missing, rule := d.rule, pattern := pattern }
  match d.rule.pattern with
  | none => .ok (spec none)
  | some source =>
    match Pattern.parse? source with
    | some p => .ok (spec (some p))
    | none => .error (.invalid (.invalidPattern d.name))

theorem ofDecl_name {d : FieldDecl} {s : FieldSpec} (h : ofDecl d = .ok s) : s.name = d.name := by
  simp only [ofDecl] at h
  split at h
  · simp only [Except.ok.injEq] at h; simp [← h]
  · split at h
    · simp only [Except.ok.injEq] at h; simp [← h]
    · contradiction

end FieldSpec

/-- The shape a declaration gives a field by itself. -/
def Shape.ofDecl (d : FieldDecl) : Shape :=
  if d.isManyToMany then .links false
  else if d.isForeignKey then .link
  else .plain

/-- A declared field with its own shape. -/
def Contract.fieldOf (d : FieldDecl) : Except ConfigError (FieldSpec × Shape) :=
  (FieldSpec.ofDecl d).map fun s => (s, Shape.ofDecl d)

namespace Contract

/-- The contract that takes any part of the fields. -/
def «partial» (c : Contract) : Contract := { c with complete := false }

/-- The names of the fields in order. -/
def names (c : Contract) : List String := c.fields.map (·.1.name)

/-- A nested object under the contract. -/
def asNested (c : Contract) : Shape := .nested c.complete c.fields

/-- A key or an object under the contract. -/
def asLookup (c : Contract) : Shape := .lookup c.complete c.fields

end Contract

end RowServe
