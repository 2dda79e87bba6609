import RowServe.Resource.Command
import RowServe.Store.Action

/-!
# Rows of a resource

What each operation asks of the store, and how the replies become its result. A delete
that has to look after other tables is a transaction: it is committed only if rows were
deleted and, for a deep delete, the keys were removed from all other tables.

Results:

* `remove_single`: a delete with nothing to look after is one statement.
-/

namespace RowServe

/-- One page of rows, with the number of all of them. -/
structure ListPage where
  rows : List Json
  total : Int
  deriving DecidableEq

namespace ListPage

/-- The page in a value: an object, or the array of its two parts. -/
def ofJson? : Json → Option ListPage
  | .obj entries => do
    let .arr rows ← Keyed.find? "data" entries | none
    let total ← (Keyed.find? "total_count" entries).bind Json.asSigned64?
    return ⟨rows, total⟩
  | .arr [.arr rows, total] => total.asSigned64?.map fun n => ⟨rows, n⟩
  | _ => none

/-- The page as a value. -/
def toJson (p : ListPage) : Json :=
  .ofEntries [("data", .arr p.rows), ("total_count", .ofInt p.total)]

end ListPage

/-- What a delete did: rows of the resource, and rows that had their keys. -/
structure Deletion where
  records : Int
  references : Int
  deriving DecidableEq, Repr

/-- The deletion as a value. -/
def Deletion.toJson (d : Deletion) : Json :=
  .ofEntries [("deleted_resource_records", .ofInt d.records),
    ("deleted_m2m_refs", .ofInt d.references)]

namespace Resource

/-- A row that has to come. -/
def needed : Option Json → Except RequestError Json
  | some v => .ok v
  | none => .error (.store .noRow)

/-- The value that a command gives. -/
def valueOf (command : Except RequestError Sql.Command) : StorePlan (Option Json) :=
  (Plan.ofExcept command).bind fun c => StorePlan.query c Reply.value

/-- The count that a command gives. -/
def countOf (command : Except RequestError Sql.Command) : StorePlan Int :=
  (Plan.ofExcept command).bind fun c => StorePlan.query c Reply.count

/-- Reads one row; if there is none, the empty object. -/
def read (r : Resource) (filter : Object) (selection : Option (List Selected)) : StorePlan Json :=
  (valueOf (r.getCommand filter selection)).bind fun row => .done (row.getD (.obj []))

/-- The page that came for a list. -/
def pageOf (v : Json) : Except RequestError ListPage :=
  match ListPage.ofJson? v with
  | some p => .ok p
  | none => .error (.store .badValue)

/-- Reads one page of rows. -/
def list (r : Resource) (filter : Object) (page : PageSpec) (selection : Option (List Selected)) :
    StorePlan ListPage :=
  (valueOf (r.listCommand filter page selection)).bind fun v =>
    .ofExcept ((needed v).bind pageOf)

/-- Inserts a row and gives its key. -/
def create (r : Resource) (payload : Object) : StorePlan Json :=
  (valueOf (r.insertCommand payload)).bind fun key => .ofExcept (needed key)

/-- Field errors of the store are about the payload of an update. -/
def aboutPayload : RequestError → RequestError
  | .invalid errors => .invalid (errors.wrap "payload")
  | e => e

/-- Updates rows and counts them; there has to be one. -/
def update (r : Resource) (op : Operation) (filter payload : Object) : StorePlan Int :=
  (Plan.ofExcept (r.updateCommand op filter payload)).bind fun c =>
    ((StorePlan.query c Reply.count).mapError aboutPayload).bind fun n =>
      if n = 0 then .fail .updateFailed else .done n

/-- The keys of deleted rows; there has to be one. -/
def deletedKeys : Option Json → Except RequestError (List Json)
  | some (.arr (key :: keys)) => .ok (key :: keys)
  | _ => .error .nothingDeleted

/-- The number of rows that had deleted keys. -/
def referencesIn (summary : Option Json) : Except RequestError Int :=
  match summary.bind CleanupReport.ofSummary? with
  | some report => .ok report.total
  | none => .error (.deleteFailed "reference cleanup returned no summary")

/-- Removes deleted keys from the arrays of other tables. -/
def prune (r : Resource) (keys : List Json) : StorePlan Int :=
  match r.cleanupCommand? keys with
  | none => .done 0
  | some c => (StorePlan.query c Reply.value).bind fun v => .ofExcept (referencesIn v)

/-- The steps of a delete that looks after other tables. -/
def removeSteps (r : Resource) (c : Sql.Command) (deep : Bool) : StorePlan Deletion :=
  (StorePlan.query c fun reply => reply.value.bind deletedKeys).bind fun keys =>
    (if deep then r.prune keys else .done 0).bind fun references =>
      .done ⟨keys.length, references⟩

/-- Deletes rows; there has to be one. -/
def remove (r : Resource) (filter : Object) (deep : Bool) : StorePlan Deletion :=
  if !deep && r.dependents.isEmpty then
    (countOf (r.deleteCommand r.templates.delete filter)).bind fun n =>
      if n = 0 then .fail .nothingDeleted else .done ⟨n, 0⟩
  else
    (Plan.ofExcept (r.deleteCommand r.templates.deleteDeep filter)).bind fun c =>
      StorePlan.inTransaction (r.removeSteps c deep)

theorem remove_single {r : Resource} (alone : r.dependents = []) (filter : Object) :
    r.remove filter false =
      (countOf (r.deleteCommand r.templates.delete filter)).bind fun n =>
        if n = 0 then .fail .nothingDeleted else .done ⟨n, 0⟩ := by
  simp [remove, alone]

end Resource

end RowServe
