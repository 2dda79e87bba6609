import RowServe.Json.Basic
import RowServe.Sql.Identifier

/-!
# Pruning references

Deleted keys may still stand in JSON arrays of other tables. One statement removes them
from all of those arrays and counts the rows it touched per column.

Results:

* `mem_ofList`: grouping by table loses no dependent column.
-/

namespace RowServe

/-- A column of another table with arrays of this resource's keys, and that table's own
    primary key. -/
structure Dependent where
  table : String
  column : String
  pk : String
  deriving DecidableEq, Repr

/-- The dependent columns of one table, which one update can change together. -/
structure DependentTable where
  table : String
  pk : String
  columns : List String
  deriving DecidableEq, Repr

namespace DependentTable

/-- Adds a dependent column to the entry of its table, behind all others if there is none. -/
def add (d : Dependent) : List DependentTable → List DependentTable
  | [] => [⟨d.table, d.pk, [d.column]⟩]
  | t :: rest =>
    if t.table = d.table then
      (if d.column ∈ t.columns then t else { t with columns := t.columns ++ [d.column] }) :: rest
    else t :: add d rest

/-- The tables in order of first appearance, each with its columns. -/
def ofList (ds : List Dependent) : List DependentTable := ds.foldl (fun ts d => add d ts) []

/-- The name of the table expression that updates the table. -/
def stage (t : DependentTable) : String := Sql.quoted (t.table ++ "_cleanup")

/-- The flag that tells whether a row's array holds a deleted key. -/
def flag (i : Nat) : String := "hit_" ++ i.repr

/-- The deleted keys as rows. -/
def deletedKeys : String := "(SELECT jsonb_array_elements_text($1::jsonb))"

/-- The definition of the flag of a column. -/
def hit (column : String) (i : Nat) : String :=
  let col := "src." ++ Sql.quoted column
  "CASE WHEN jsonb_typeof(" ++ col ++ ") = 'array' THEN EXISTS (SELECT 1 FROM " ++
    "jsonb_array_elements_text(" ++ col ++ ") AS x(val) WHERE x.val IN " ++ deletedKeys ++
    ") ELSE false END AS " ++ flag i

/-- The new value of a column: its array without the deleted keys where the flag is set. -/
def assignment (t : DependentTable) (column : String) (i : Nat) : String :=
  let col := Sql.qualified t.table column
  Sql.quoted column ++ " = CASE WHEN h." ++ flag i ++
    " THEN COALESCE((SELECT jsonb_agg(e.elem) FROM jsonb_array_elements(" ++ col ++
    ") AS e(elem) WHERE (e.elem #>> '\x7b\x7d') NOT IN " ++ deletedKeys ++
    "), '[]'::jsonb) ELSE " ++ col ++ " END"

/-- The columns with their places. -/
def places (t : DependentTable) : List (String × Nat) := t.columns.zipIdx

/-- The update of the table as a named table expression. -/
def update (t : DependentTable) : String :=
  let flags := t.places.map fun (_, i) => "h." ++ flag i
  t.stage ++ " AS (UPDATE " ++ Sql.quoted t.table ++ " SET " ++
    ", ".intercalate (t.places.map fun (c, i) => t.assignment c i) ++
    " FROM (SELECT src." ++ Sql.quoted t.pk ++ " AS rid, " ++
    ", ".intercalate (t.places.map fun (c, i) => hit c i) ++
    " FROM " ++ Sql.quoted t.table ++ " AS src) AS h WHERE " ++ Sql.qualified t.table t.pk ++
    " = h.rid AND (" ++ " OR ".intercalate flags ++ ") RETURNING " ++ ", ".intercalate flags ++ ")"

/-- The entries of the summary for the table: per column the number of rows touched. -/
def counts (t : DependentTable) : List String :=
  t.places.map fun (c, i) =>
    Sql.literal (t.table ++ "." ++ c) ++ ", (SELECT count(*) FROM " ++ t.stage ++ " WHERE " ++
      flag i ++ ")"

end DependentTable

/-- The statement that removes the keys of `$1`, a JSON array, from every dependent
    column; without dependent columns there is none. -/
def cleanupStatement (ds : List Dependent) : Option String :=
  if ds.isEmpty then none
  else
    let tables := DependentTable.ofList ds
    some ("WITH " ++ ", ".intercalate (tables.map DependentTable.update) ++
      " SELECT json_build_object(" ++ ", ".intercalate (tables.flatMap DependentTable.counts) ++
      ")")

/-! ## The summary -/

/-- How many rows a cleanup touched per `table.column`. -/
structure CleanupReport where
  perColumn : Keyed Int
  deriving DecidableEq

namespace CleanupReport

/-- The sum over all columns. -/
def total (r : CleanupReport) : Int := r.perColumn.foldl (fun n entry => n + entry.2) 0

/-- Reads the counts of a summary; every value has to be a 64-bit integer. -/
def counts? : List (String × Json) → Option (Keyed Int)
  | [] => some []
  | (k, v) :: rest => do
    let n ← v.asSigned64?
    let others ← counts? rest
    return (k, n) :: others

/-- The report of the summary a cleanup statement returns. -/
def ofSummary? : Json → Option CleanupReport
  | .obj entries => (counts? entries).map fun c => ⟨c⟩
  | _ => none

end CleanupReport

theorem DependentTable.mem_add (d : Dependent) (ts : List DependentTable) :
    ∃ t ∈ add d ts, t.table = d.table ∧ d.column ∈ t.columns := by
  induction ts with
  | nil => simp [add]
  | cons t ts ih =>
    simp only [add]
    split
    · rename_i h
      refine ⟨_, List.mem_cons_self, ?_⟩
      split <;> simp_all
    · obtain ⟨u, hu, h⟩ := ih
      exact ⟨u, List.mem_cons_of_mem _ hu, h⟩

theorem DependentTable.mem_add_of_mem {d : Dependent} {ts : List DependentTable}
    {table column : String} (h : ∃ t ∈ ts, t.table = table ∧ column ∈ t.columns) :
    ∃ t ∈ add d ts, t.table = table ∧ column ∈ t.columns := by
  induction ts with
  | nil => simp at h
  | cons t ts ih =>
    obtain ⟨u, hu, h1, h2⟩ := h
    simp only [add]
    rcases List.mem_cons.mp hu with hu | hu
    · subst hu
      split
      · refine ⟨_, List.mem_cons_self, ?_⟩
        split <;> simp_all
      · exact ⟨u, List.mem_cons_self, h1, h2⟩
    · split
      · exact ⟨u, List.mem_cons_of_mem _ hu, h1, h2⟩
      · obtain ⟨w, hw, h⟩ := ih ⟨u, hu, h1, h2⟩
        exact ⟨w, List.mem_cons_of_mem _ hw, h⟩

theorem DependentTable.mem_ofList {ds : List Dependent} {d : Dependent} (h : d ∈ ds) :
    ∃ t ∈ ofList ds, t.table = d.table ∧ d.column ∈ t.columns := by
  have grow : ∀ (ds : List Dependent) (ts : List DependentTable),
      (∃ t ∈ ts, t.table = d.table ∧ d.column ∈ t.columns) →
      ∃ t ∈ ds.foldl (fun ts d => add d ts) ts, t.table = d.table ∧ d.column ∈ t.columns := by
    intro ds
    induction ds with
    | nil => intro ts h; exact h
    | cons e es ih => intro ts h; exact ih _ (mem_add_of_mem h)
  have main : ∀ (ds : List Dependent) (ts : List DependentTable), d ∈ ds →
      ∃ t ∈ ds.foldl (fun ts d => add d ts) ts, t.table = d.table ∧ d.column ∈ t.columns := by
    intro ds
    induction ds with
    | nil => intro ts h; simp at h
    | cons e es ih =>
      intro ts h
      rcases List.mem_cons.mp h with h | h
      · subst h; exact grow es _ (mem_add d ts)
      · exact ih _ h
  exact main ds [] h

end RowServe
