import RowServe.Resource.Selection

/-!
# Statements

The statements of a resource as templates. Names of tables and columns are part of the
text a template is read from; what depends on a request is left open.
-/

namespace RowServe.Statement

open Sql (Template TemplateError Slot quoted qualified)

/-- A slot in the text of a template. -/
def slotText (s : Slot) : String := (Sql.Template.Segment.display (.gap s))

/-- Shows the first row that passes a filter. -/
def getSource (table : String) : String :=
  "SELECT " ++ slotText .select ++ " AS \"inner\" FROM " ++ quoted table ++ " " ++
    slotText .joins ++ " WHERE " ++ slotText .predicate ++ " LIMIT 1"

/-- The order of a list. -/
def orderSource : String := "ORDER BY " ++ slotText .orderBy ++ " " ++ slotText .orderHow

/-- Shows one page of the rows that pass a filter, and counts all of them. -/
def listSource (table : String) : String :=
  let t := quoted table
  "SELECT json_build_object('data', COALESCE((SELECT json_agg(page.\"inner\" ORDER BY page.rn) " ++
    "FROM (SELECT " ++ slotText .select ++ " AS \"inner\", row_number() OVER (" ++ orderSource ++
    ") AS rn FROM " ++ t ++ " " ++ slotText .joins ++ " WHERE " ++ slotText .predicate ++ " " ++
    orderSource ++ " LIMIT " ++ slotText .limit ++ " OFFSET " ++ slotText .offset ++
    ") page), '[]'::json), 'total_count', (SELECT count(*) FROM " ++ t ++ " " ++
    slotText .joins ++ " WHERE " ++ slotText .predicate ++ ")) AS \"outer\""

/-- Inserts a row and gives its key. -/
def insertSource (table pk : String) : String :=
  "INSERT INTO " ++ quoted table ++ " (" ++ slotText .cols ++ ") VALUES (" ++ slotText .vals ++
    ") RETURNING to_json(" ++ qualified table pk ++ ")"

/-- Updates the rows that pass a filter and counts them. -/
def updateSource (table : String) : String :=
  "WITH rows AS (UPDATE " ++ quoted table ++ " SET " ++ slotText .updates ++ " WHERE " ++
    slotText .predicate ++ " RETURNING 1) SELECT count(*) FROM rows"

/-- Deletes the rows that pass a filter and counts them. -/
def deleteSource (table : String) : String :=
  "WITH rows AS (DELETE FROM " ++ quoted table ++ " WHERE " ++ slotText .predicate ++
    " RETURNING 1) SELECT count(*) FROM rows"

/-- Deletes the rows that pass a filter and gives their keys as an array. -/
def deleteDeepSource (table pk : String) : String :=
  "WITH rows AS (DELETE FROM " ++ quoted table ++ " WHERE " ++ slotText .predicate ++
    " RETURNING " ++ qualified table pk ++ ") SELECT json_agg(rows." ++ quoted pk ++
    ") FROM rows"

/-- The template of a source; a table name may spoil it with braces. -/
def ofSource (source : String) : Except ConfigError Template :=
  match Template.parse source with
  | .ok t => .ok t
  | .error e => .error (.template e)

/-- The template with the shown expression filled in. -/
def withSelect (t : Template) (select : String) : Template :=
  t.fill (Template.Values.empty.set .select select)

/-- The templates of a resource; `hidden` is the column that is not shown. -/
def templates (view : TableView) (hidden : Option String) (dependents : List Dependent) :
    Except ConfigError Templates := do
  let selection := Selection.default view hidden
  let getBase ← ofSource (getSource view.table)
  let listBase ← ofSource (listSource view.table)
  let insert ← ofSource (insertSource view.table view.pk)
  let update ← ofSource (updateSource view.table)
  let delete ← ofSource (deleteSource view.table)
  let deleteDeep ← ofSource (deleteDeepSource view.table view.pk)
  return {
    insert := insert
    get := withSelect getBase (Selection.sql view selection false)
    getBase := getBase
    list := withSelect listBase (Selection.sql view selection true)
    listBase := listBase
    update := update
    delete := delete
    deleteDeep := deleteDeep
    cleanup := cleanupStatement dependents
    getJoins := Selection.joins view selection
    listJoins := Selection.joins view selection }

end RowServe.Statement
