import RowServe.Resource.Rows
import RowServe.Session

/-!
# Hooks

Code that a service runs around the operations of one resource. A hook before an
operation may change the input or refuse it; a hook after a write sees what was written;
an overridden operation is served by its hook alone. Hooks may act on the store.

Results:

* `idle_run`: idle hooks leave the store as it is.
-/

namespace RowServe

/-- A write that succeeded. -/
inductive WriteEvent where
  | created (key : Json) (payload : Object)
  | updated (op : Operation) (select payload : Object) (count : Int)
  | deleted (filter : Object) (deletion : Deletion)

/-- The operation behind a write. -/
def WriteEvent.operation : WriteEvent → Operation
  | created _ _ => .post
  | updated op _ _ _ => op
  | deleted _ _ => .delete

/-- What hooks are called for. -/
inductive HookCall where
  | beforeGet (filter : Object)
  | beforeList (filter : Object)
  | beforePost (payload : Object)
  | beforeUpdate (op : Operation) (select payload : Object)
  | beforeDelete (filter : Object)
  | handle (op : Operation) (select : Option Object) (payload : Object)
  | after (event : WriteEvent)

/-- What a hook gives back: its input as changed, or the body of the response. -/
abbrev HookCall.Result : HookCall → Type
  | beforeGet _ | beforeList _ | beforePost _ | beforeDelete _ => Object
  | beforeUpdate _ _ _ => Object × Object
  | handle _ _ _ => Json
  | after _ => Unit

/-- What a hook knows beside its input. -/
structure HookContext where
  session : Session
  resource : Resource

/-- The hooks of one resource. -/
structure Hooks where
  /-- The operations that the hooks serve alone. -/
  overrides : List Operation
  run : HookContext → (call : HookCall) → StorePlan call.Result

namespace Hooks

/-- An overridden operation that nothing serves. -/
def unserved (op : Operation) : RequestError := .notAllowed op.name

/-- What is done where a hook has nothing to do. -/
def idleRun : (call : HookCall) → StorePlan call.Result
  | .beforeGet filter | .beforeList filter | .beforeDelete filter => .done filter
  | .beforePost payload => .done payload
  | .beforeUpdate _ select payload => .done (select, payload)
  | .handle op _ _ => .fail (unserved op)
  | .after _ => .done ()

/-- Hooks that do nothing. -/
def idle : Hooks := ⟨[], fun _ => idleRun⟩

theorem idle_run {σ : Type} (answer : (x : StoreAction) → σ → x.Answer × σ) (ctx : HookContext)
    (call : HookCall) (store : σ) : (Plan.run answer (idle.run ctx call) store).2 = store := by
  cases call <;> rfl

end Hooks

end RowServe
