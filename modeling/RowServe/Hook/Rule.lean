import RowServe.Hook.Basic

/-!
# Hooks as data

Hooks that are written down instead of programmed: before an operation, keys are removed
from the input, keys are set, and the request may be refused; after a write it may be
failed; an overridden operation answers with what it was given.

Results:

* `changed_find?`: a key that is set has its new value, whether or not it was removed, and any
  other key is gone if it was removed and as it was if not.
-/

namespace RowServe

/-- What is done before an operation. -/
structure BeforeRule where
  removed : List String
  set : Object
  /-- The keys that are set in the selection of an update. -/
  setSelect : Object
  failure : Option RequestError

/-- How an overridden operation is served. -/
inductive HandleRule where
  | unserved
  | echo
  | refuse (e : RequestError)

/-- The rules for one resource. -/
structure HookRules where
  overrides : List Operation
  handle : HandleRule
  beforeGet : BeforeRule
  beforeList : BeforeRule
  beforePost : BeforeRule
  beforeUpdate : BeforeRule
  beforeDelete : BeforeRule
  afterPost : Option RequestError
  afterUpdate : Option RequestError
  afterDelete : Option RequestError

namespace BeforeRule

/-- The input as the rule changes it. -/
def changed (rule : BeforeRule) (input : Object) : Object :=
  (rule.removed.foldl (fun m k => m.erase k) input).union rule.set

/-- A result, unless the rule refuses. -/
def settle {α : Type} (rule : BeforeRule) (a : α) : StorePlan α :=
  match rule.failure with
  | some e => .fail e
  | none => .done a

theorem find?_eraseAll (removed : List String) (input : Object) (k : String) :
    (removed.foldl (fun m k => m.erase k) input).find? k =
      if k ∈ removed then none else input.find? k := by
  induction removed generalizing input with
  | nil => rfl
  | cons first rest ih =>
    rw [List.foldl_cons, ih, Keyed.find?_erase]
    by_cases hrest : k ∈ rest <;> by_cases hfirst : k = first <;> simp [hrest, hfirst]

theorem changed_find? {rule : BeforeRule} (hset : rule.set.Sorted) (input : Object) (k : String) :
    (rule.changed input).find? k =
      (rule.set.find? k).or (if k ∈ rule.removed then none else input.find? k) := by
  unfold changed
  rw [Keyed.find?_union _ hset, find?_eraseAll]

end BeforeRule

namespace HookRules

/-- What an overridden operation answers with. -/
def echo (op : Operation) (select : Option Object) (payload : Object) : Json :=
  .ofEntries [("op", .str op.name), ("select", .ofOption .obj select), ("payload", .obj payload)]

/-- The end of a rule for what follows a write. -/
def settle : Option RequestError → StorePlan Unit
  | some e => .fail e
  | none => .done ()

/-- What the rules do. -/
def run (rules : HookRules) : (call : HookCall) → StorePlan call.Result
  | .beforeGet filter => rules.beforeGet.settle (rules.beforeGet.changed filter)
  | .beforeList filter => rules.beforeList.settle (rules.beforeList.changed filter)
  | .beforePost payload => rules.beforePost.settle (rules.beforePost.changed payload)
  | .beforeDelete filter => rules.beforeDelete.settle (rules.beforeDelete.changed filter)
  | .beforeUpdate _ select payload =>
    rules.beforeUpdate.settle
      (Keyed.union select rules.beforeUpdate.setSelect, rules.beforeUpdate.changed payload)
  | .handle op select payload =>
    match rules.handle with
    | .unserved => .fail (Hooks.unserved op)
    | .echo => .done (echo op select payload)
    | .refuse e => .fail e
  | .after (.created _ _) => settle rules.afterPost
  | .after (.updated _ _ _ _) => settle rules.afterUpdate
  | .after (.deleted _ _) => settle rules.afterDelete

/-- The rules as hooks. -/
def toHooks (rules : HookRules) : Hooks := ⟨rules.overrides, fun _ => rules.run⟩

end HookRules

end RowServe
