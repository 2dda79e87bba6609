import RowServe.Text.Blank
import RowServe.Text.LowerCase

/-!
# Column types

The SQL type of a stored field: the text a declaration gives, or a name with numeric
parameters.

Results:

* `cast_of_not_serial`: only the serial types are cast to another type.
-/

namespace RowServe

/-- The declared type of a column. -/
inductive SqlType where
  | simple (text : String)
  | parameterized (name : String) (params : Option (List Nat))
  deriving DecidableEq, Repr

namespace SqlType

/-- The type as it is written in a table definition, as in `numeric(10, 2)`. -/
def text : SqlType → String
  | simple s => s
  | parameterized name none => name
  | parameterized name (some []) => name
  | parameterized name (some params) =>
    name ++ "(" ++ ", ".intercalate (params.map Nat.repr) ++ ")"

/-- The declared name, which may have parameters in it. -/
def name : SqlType → String
  | simple s => s
  | parameterized name _ => name

/-- The name of the type in lower case, without parameters. -/
def base (t : SqlType) : String :=
  Text.toLower (Text.trim (String.ofList (t.name.toList.takeWhile (· ≠ '('))))

/-- The integer type that a serial type stands for. -/
def serialTarget? (base : String) : Option String :=
  if base = "serial" ∨ base = "serial4" then some "integer"
  else if base = "bigserial" ∨ base = "serial8" then some "bigint"
  else if base = "smallserial" ∨ base = "serial2" then some "smallint"
  else none

/-- The type that bound values are cast to: the base type, a serial one as its integer
    type. -/
def cast (t : SqlType) : String := (serialTarget? t.base).getD t.base

/-- Is it the binary JSON type? -/
def isJsonb (t : SqlType) : Bool := t.base = "jsonb"

/-- Is it one of the JSON types? -/
def isJson (t : SqlType) : Bool := t.base = "json" ∨ t.base = "jsonb"

theorem cast_of_not_serial {t : SqlType} (h : serialTarget? t.base = none) : t.cast = t.base := by
  simp [cast, h]

end SqlType

end RowServe
