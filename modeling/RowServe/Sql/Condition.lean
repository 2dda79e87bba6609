import RowServe.Sql.Bind
import RowServe.Sql.Identifier

/-!
# Conditions and values in statements

The parts of a statement that depend on a request, as data: what is compared with which
placeholder, which columns are set, and which are shown. Each has one rendering.
-/

namespace RowServe.Sql

/-- Where a stored value is read: a column, or a key of a JSON column. -/
inductive Operand where
  | column (table column : String)
  | key (table column key : String)
  deriving DecidableEq, Repr

namespace Operand

/-- The operand as an expression. -/
def render : Operand → String
  | column t c => qualified t c
  | key t c k => qualified t c ++ "->" ++ literal k

/-- The operand in front of an operator: a key needs parentheses there. -/
def target : Operand → String
  | column t c => qualified t c
  | key t c k => "(" ++ render (key t c k) ++ ")"

end Operand

/-- A comparison of a column. -/
inductive Comparison where
  | isNull (x : Operand)
  | equals (x : Operand) (p : Placeholder)
  deriving DecidableEq, Repr

/-- The comparison in SQL. -/
def Comparison.render : Comparison → String
  | isNull x => x.target ++ " IS NULL"
  | equals x p => x.target ++ " = " ++ p.render

/-- A condition on a row. -/
inductive Condition where
  | compare (c : Comparison)
  /-- The key is absent, or null in JSON. -/
  | isJsonNull (x : Operand)
  /-- The document holds all of another one. -/
  | contains (x : Operand) (p : Placeholder)
  /-- The document has a text among its strings or keys. -/
  | hasText (x : Operand) (p : Placeholder)
  /-- The column has one of the values of a column of another table, in the rows there
      that pass all comparisons. -/
  | among (x : Operand) (table column : String) (cs : List Comparison)
  deriving DecidableEq, Repr

/-- The condition in SQL. -/
def Condition.render : Condition → String
  | compare c => c.render
  | isJsonNull x => "(" ++ x.target ++ " IS NULL OR " ++ x.target ++ " = 'null'::jsonb)"
  | contains x p => x.target ++ " @> " ++ p.render
  | hasText x p => x.target ++ " ? " ++ p.render
  | among x table column cs =>
    x.target ++ " IN (SELECT " ++ qualified table column ++ " FROM " ++ quoted table ++ " WHERE " ++
      " AND ".intercalate (cs.map Comparison.render) ++ ")"

/-- All of some conditions; none of them is a condition that always holds. -/
def allText (cs : List Condition) : String :=
  if cs.isEmpty then "1=1" else " AND ".intercalate (cs.map Condition.render)

/-! ## Values that are written -/

/-- The value a column gets. -/
inductive Assigned where
  | null
  | bound (p : Placeholder)
  /-- The document merged deeply into the present one. -/
  | merged (current : Operand) (p : Placeholder)
  /-- The keys of the document put over those of the present one. -/
  | extended (current : Operand) (p : Placeholder)
  /-- The next value of a sequence. -/
  | next (sequence : String)
  deriving DecidableEq, Repr

/-- The value in SQL. -/
def Assigned.render : Assigned → String
  | null => "NULL"
  | bound p => p.render
  | merged current p => "jsonb_merge_deep(" ++ current.render ++ ", " ++ p.render ++ ")"
  | extended current p =>
    "COALESCE(" ++ current.render ++ ", '\x7b\x7d'::jsonb) || " ++ p.render
  | next sequence => "nextval(" ++ literal sequence ++ ")"

/-- A column with the value it gets. -/
structure Assignment where
  column : String
  value : Assigned
  deriving DecidableEq, Repr

/-- The assignment in the list of an update. -/
def Assignment.render (a : Assignment) : String := quoted a.column ++ " = " ++ a.value.render

/-- The list of an update. -/
def setList (as : List Assignment) : String := ", ".intercalate (as.map Assignment.render)

/-- The columns of an insert. -/
def columnList (as : List Assignment) : String := ", ".intercalate (as.map fun a => quoted a.column)

/-- The values of an insert. -/
def valueList (as : List Assignment) : String := ", ".intercalate (as.map (·.value.render))

/-! ## Values that are shown -/

/-- What is shown under a key: a stored value, or columns of a joined row. -/
inductive Shown where
  | stored (x : Operand)
  /-- The joined row is absent if its key column is null. -/
  | joined (source key : String) (columns : List String)
  deriving DecidableEq, Repr

/-- A JSON object built from keys and expressions. -/
def buildObject (entries : List (String × String)) : String :=
  "json_build_object(" ++ ", ".intercalate (entries.map fun (k, e) => literal k ++ ", " ++ e) ++ ")"

/-- The expression of what is shown. -/
def Shown.render : Shown → String
  | stored x => x.render
  | joined source key columns =>
    "CASE WHEN " ++ qualified source key ++ " IS NULL THEN NULL ELSE " ++
      buildObject (columns.map fun c => (c, qualified source c)) ++ " END"

/-- The object of a row. -/
def projection (shown : List (String × Shown)) : String :=
  buildObject (shown.map fun (k, s) => (k, s.render))

end RowServe.Sql
