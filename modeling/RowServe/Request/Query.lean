import RowServe.Json.Basic
import RowServe.Text.Split

/-!
# Query parameters as an object

The pairs of a query string, in order, as one object: a repeated key collects its values
in an array, and a dotted key such as `producer.name` sets a key of the object `producer`.
-/

namespace RowServe.Query

/-- Adds one more value under a key; a second value makes an array of both. -/
def collect (m : Object) (key value : String) : Object :=
  match m.find? key with
  | some (.arr items) => m.insert key (.arr (items ++ [.str value]))
  | some first => m.insert key (.arr [first, .str value])
  | none => m.insert key (.str value)

/-- The two parts of a dotted key, neither of them empty. The first dot counts. -/
def dotted? (key : String) : Option (String × String) :=
  match Text.splitOnce '.' key.toList with
  | some (outer, inner) =>
    if outer.isEmpty || inner.isEmpty then none
    else some (String.ofList outer, String.ofList inner)
  | none => none

/-- Adds one pair. A dotted key replaces what is no object under its first part. -/
def add (m : Object) (key value : String) : Object :=
  match dotted? key with
  | none => collect m key value
  | some (outer, inner) =>
    let nested : Object :=
      match m.find? outer with
      | some (.obj entries) => entries
      | _ => []
    m.insert outer (.obj (collect nested inner value))

/-- The object of a list of pairs. -/
def ofPairs (pairs : List (String × String)) : Object :=
  pairs.foldl (fun m p => add m p.1 p.2) []

end RowServe.Query
