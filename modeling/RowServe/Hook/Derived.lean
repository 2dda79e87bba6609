import RowServe.Hook.Basic

/-!
# Derived columns

The hooks of a resource with columns that clients may not write: the state is derived
from the address on every write, and a marker column follows the history of the row. One
value of the marker may not be asked for.

Results:

* `deriveState_find?`: the state of the address is put in, and nothing else is changed.
-/

namespace RowServe.DerivedColumns

/-- Does the second text stand somewhere in the first? -/
def containsText : List Char → List Char → Bool
  | [], part => part.isEmpty
  | c :: cs, part => part.isPrefixOf (c :: cs) || containsText cs part

/-- The state of an address. -/
def stateOf? (address : String) : Option String :=
  if containsText address.toList "Washington".toList then some "DC"
  else if containsText address.toList "Seattle".toList then some "Oregon"
  else if address.isEmpty then none
  else some "N/A"

/-- The address in a payload. -/
def address? (payload : Object) : Option String := (payload.find? "address").bind Json.asText?

/-- The payload with the state of its address. -/
def deriveState (payload : Object) : Object :=
  match (address? payload).bind stateOf? with
  | some state => payload.insert "state" (.str state)
  | none => payload

/-- The column that follows the history of a row. -/
def marker : String := "read_only_field"

/-- Refuses a filter for the secret marker. -/
def guardMarker (filter : Object) : StorePlan Object :=
  if filter.find? marker = some (.str "secret_requested") then .fail .forbidden else .done filter

/-- Marks a new row. -/
def markCommand (key : Json) : Sql.Command :=
  ⟨"UPDATE customop SET read_only_field = 'sth_else_modified' WHERE id = $1",
    [.int key.asSigned64?]⟩

/-- Adds the operation to the history of the rows at an address. -/
def historyCommand (op : Operation) (address : String) : Sql.Command :=
  ⟨"UPDATE customop SET custom_getter = custom_getter || $1 WHERE address = $2",
    [.text (some ("_" ++ op.name)), .text (some address)]⟩

/-- What the hooks do. -/
def run : (call : HookCall) → StorePlan call.Result
  | .beforeGet filter => guardMarker filter
  | .beforeList filter => guardMarker filter
  | .beforePost payload => .done (deriveState (payload.insert marker (.str "initial_val")))
  | .beforeUpdate _ select payload => .done (select, deriveState payload)
  | .beforeDelete filter => .done filter
  | .handle op _ _ => .fail (Hooks.unserved op)
  | .after (.created key _) => StorePlan.query (markCommand key) Reply.success
  | .after (.updated op _ payload _) =>
    match address? payload with
    | some address => StorePlan.query (historyCommand op address) Reply.success
    | none => .done ()
  | .after (.deleted _ _) => .done ()

/-- The hooks. -/
def hooks : Hooks := ⟨[], fun _ => run⟩

theorem deriveState_find? (payload : Object) (k : String) :
    (deriveState payload).find? k =
      if k = "state" then (((address? payload).bind stateOf?).map Json.str).or (payload.find? k)
      else payload.find? k := by
  unfold deriveState
  cases (address? payload).bind stateOf? with
  | none => simp
  | some state =>
    rw [Keyed.find?_insert]
    split <;> simp

end RowServe.DerivedColumns
