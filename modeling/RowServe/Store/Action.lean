import RowServe.Plan
import RowServe.Sql.Bind
import RowServe.Store.Reply

/-!
# Actions on the store

Statements, and transactions around them. A transaction is committed if all of its steps
succeed and rolled back if one fails; after a statement that got no answer the connection
is given up, and the store drops the transaction by itself.
-/

namespace RowServe

/-- What can be asked of the store. -/
inductive StoreAction where
  | connect (database : String)
  | run (command : Sql.Command)
  | beginTransaction
  | commit
  | rollback
  deriving DecidableEq

namespace StoreAction

/-- What the store answers. -/
abbrev Answer : StoreAction → Type
  | run _ => Reply
  | connect _ | beginTransaction | commit => Except StoreError Unit
  | rollback => Unit

end StoreAction

/-- Plans that only act on the store. -/
abbrev StoreAction.interface : Interface := ⟨StoreAction, StoreAction.Answer⟩

/-- A plan that only acts on the store. -/
abbrev StorePlan (α : Type) := Plan StoreAction.interface α

namespace StorePlan

variable {α : Type}

/-- A command, with its reply read in some way. -/
def query (command : Sql.Command) (read : Reply → Except RequestError α) : StorePlan α :=
  .act (.run command) fun reply => .ofExcept (read reply)

/-- An action that succeeds or fails as a whole. -/
def settle (answer : Except StoreError Unit) : StorePlan Unit :=
  match answer with
  | .ok () => .done ()
  | .error e => .fail (.store e)

/-- Ends a transaction by the result of its steps. -/
def closeTransaction : Except RequestError α → StorePlan α
  | .ok a => .act .commit fun answer => (settle answer).bind fun () => .done a
  | .error .timeout => .fail .timeout
  | .error e => .act .rollback fun () => .fail e

/-- All steps in one transaction. -/
def inTransaction (steps : StorePlan α) : StorePlan α :=
  .act .beginTransaction fun answer =>
    (settle answer).bind fun () => steps.attempt.bind closeTransaction

end StorePlan

end RowServe
