import RowServe.Request.Error
import RowServe.Resource.Change
import RowServe.Resource.Statement

/-!
# Commands of a resource

The statement with its parameters for one request: the open slots of a template are
filled, and the parameters of its conditions and values come in one list.

Results:

* `insertCommand_empty_iff`, `updateCommand_empty_iff`: when a payload is refused because it gives
  no column a value.
-/

namespace RowServe.Resource

open Sql (Command Template)

/-- The statement of a filled template, with its parameters. -/
def complete (t : Template) (values : Template.Values) (b : Sql.Binds) :
    Except RequestError Command :=
  match t.render values with
  | .ok text => .ok (b.command text)
  | .error e => .error (.template e)

/-- The projection of a read: the template with it filled in, and the joins it needs. -/
def projected (r : Resource) (list : Bool) : Option (List Selected) → Template × List String
  | none =>
    if list then (r.templates.list, r.templates.listJoins)
    else (r.templates.get, r.templates.getJoins)
  | some selection =>
    let base := if list then r.templates.listBase else r.templates.getBase
    (Statement.withSelect base (Selection.sql r.toTableView selection list),
      Selection.joins r.toTableView selection)

/-- The slots that every read fills. -/
def readValues (r : Resource) (joins : List String) (w : WhereClause) : Template.Values :=
  (Template.Values.empty.set .joins (r.joinsSql (joins ++ w.joins))).set .predicate w.sql

/-- Reads one row. -/
def getCommand (r : Resource) (filter : Object) (selection : Option (List Selected)) :
    Except RequestError Command :=
  let (w, b) := WhereClause.ofFilter r.toTableView filter .select []
  let (template, joins) := r.projected false selection
  complete template (r.readValues joins w) b

/-- Reads one page of rows. -/
def listCommand (r : Resource) (filter : Object) (page : PageSpec)
    (selection : Option (List Selected)) : Except RequestError Command :=
  let (w, b) := WhereClause.ofFilter r.toTableView filter .select []
  let (template, joins) := r.projected true selection
  let values := (((r.readValues joins w).set .orderBy
    (Selection.orderBy r.toTableView page.orderBy)).set .orderHow page.orderDir.sql)
  complete template ((values.set .limit page.limit.repr).set .offset page.offset.repr) b

/-- Inserts a row. -/
def insertCommand (r : Resource) (payload : Object) : Except RequestError Command :=
  let (values, b) := Change.insertions r.toTableView r.autoincrement payload []
  if values.isEmpty then .error (.field "_schema" "Payload cannot be empty")
  else
    complete r.templates.insert
      ((Template.Values.empty.set .cols (Sql.columnList values)).set .vals (Sql.valueList values)) b

/-- Updates the rows that pass a filter. -/
def updateCommand (r : Resource) (op : Operation) (filter payload : Object) :
    Except RequestError Command :=
  let (w, b) := WhereClause.ofFilter r.toTableView filter .mutate []
  let (values, b) := Change.assignments r.toTableView payload op r.kidColumn b
  if values.isEmpty then
    .error (.invalid ((FieldErrors.single "_schema" "No stored fields to update").wrap "payload"))
  else
    complete r.templates.update
      ((Template.Values.empty.set .updates (Sql.setList values)).set .predicate w.sql) b

/-- Deletes the rows that pass a filter. -/
def deleteCommand (r : Resource) (template : Template) (filter : Object) :
    Except RequestError Command :=
  let (w, b) := WhereClause.ofFilter r.toTableView filter .mutate []
  complete template (Template.Values.empty.set .predicate w.sql) b

/-- Removes deleted keys from the arrays of other tables. -/
def cleanupCommand? (r : Resource) (keys : List Json) : Option Command :=
  r.templates.cleanup.map fun text => ⟨text, [.json (.arr keys)]⟩

/-! ## Payloads without a value -/

theorem complete_ne_invalid (t : Template) (values : Template.Values) (b : Sql.Binds)
    (errors : FieldErrors) : complete t values b ≠ .error (.invalid errors) := by
  unfold complete
  cases t.render values with
  | ok text => exact nofun
  | error e => exact nofun

theorem insertCommand_empty_iff {r : Resource} {payload : Object} :
    r.insertCommand payload = .error (.field "_schema" "Payload cannot be empty") ↔
      r.autoincrement = none ∧
        ∀ f ∈ r.fields.filter Field.isColumn, payload.find? f.name = none := by
  have hnothing : (Change.insertions r.toTableView r.autoincrement payload []).1 = [] ↔ _ :=
    Change.insertions_eq_nil_iff
  rw [← hnothing]
  unfold insertCommand
  dsimp only
  by_cases hempty : (Change.insertions r.toTableView r.autoincrement payload []).1 = []
  · simp [hempty]
  · simp [hempty, complete_ne_invalid, RequestError.field]

theorem updateCommand_empty_iff {r : Resource} {op : Operation} {filter payload : Object} :
    r.updateCommand op filter payload =
        .error (.invalid ((FieldErrors.single "_schema" "No stored fields to update").wrap
          "payload")) ↔
      ∀ f ∈ r.fields.filter Field.isColumn, f.name ≠ r.pk → payload.find? f.name = none := by
  have hnothing : (Change.assignments r.toTableView payload op r.kidColumn
      (WhereClause.ofFilter r.toTableView filter .mutate []).2).1 = [] ↔ _ :=
    Change.assignments_eq_nil_iff
  rw [← hnothing]
  unfold updateCommand
  dsimp only
  by_cases hempty : (Change.assignments r.toTableView payload op r.kidColumn
      (WhereClause.ofFilter r.toTableView filter .mutate []).2).1 = []
  · simp [hempty]
  · simp [hempty, complete_ne_invalid]

end RowServe.Resource
