import RowServe.Service.Basic

/-!
# Actions of a service

What serving a request does beside computing: it acts on the store, calls hooks, and asks
predicates. A hook that follows a write may be left to run beside the response.
-/

namespace RowServe

/-- What serving a request may do. -/
inductive ServiceAction where
  | store (x : StoreAction)
  | hook (call : HookCall)
  | background (event : WriteEvent)
  | predicate (name : String) (target : Option Json)

/-- What comes back for it. -/
abbrev ServiceAction.Answer : ServiceAction → Type
  | store x => x.Answer
  | hook call => Except RequestError call.Result
  | background _ => Unit
  | predicate _ _ => Bool

/-- Plans that serve requests. -/
abbrev ServiceAction.interface : Interface := ⟨ServiceAction, ServiceAction.Answer⟩

/-- A plan that serves a request. -/
abbrev ServicePlan (α : Type) := Plan ServiceAction.interface α

namespace ServicePlan

variable {α : Type}

/-- A plan that only acts on the store. -/
def store (p : StorePlan α) : ServicePlan α := p.embed ServiceAction.store fun _ answer => answer

/-- A hook whose result is waited for. -/
def hook (call : HookCall) : ServicePlan call.Result := .act (.hook call) .ofExcept

/-- A hook that is left to run beside the response. -/
def background (event : WriteEvent) : ServicePlan Unit := .act (.background event) .done

end ServicePlan

end RowServe
