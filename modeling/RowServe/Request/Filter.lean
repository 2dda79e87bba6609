import RowServe.Resource.Basic

/-!
# Checked filters

The filter of a request under a contract of the resource. A nested extension has fields
of its own beside those of its parent: what the contract refuses of them is checked again
by themselves, and the filter is taken if nothing else was wrong.

Results:

* `checkFilter_of_plain`: without fields of its own a resource checks by the contract alone.
-/

namespace RowServe.Resource

/-- The filter after the fields of the nested extension were checked by themselves; `v` is
    what the contract found. -/
def retryOwn (r : Resource) (child : Contract) (v : Validation) (input : Object) :
    Except FieldErrors Object :=
  let own := v.errors.keys.filter r.isChildField
  let others : FieldErrors := v.errors.filter fun e => !own.contains e.1
  let second := child.check (input.filter fun e => own.contains e.1)
  if own.isEmpty then .error v.errors
  else if !second.isOk then .error (others.union second.errors)
  else if !others.isEmpty then .error others
  else if second.valid.isEmpty then .error v.errors
  else .ok (v.valid.union second.valid)

/-- The cleaned filter, or what is wrong with it. -/
def checkFilter (r : Resource) (c : Contract) (input : Object) : Except FieldErrors Object :=
  let v := c.check input
  if v.isOk then .ok v.valid
  else
    match r.contracts.child with
    | none => .error v.errors
    | some child => r.retryOwn child v input

theorem checkFilter_of_plain {r : Resource} (plain : r.contracts.child = none) (c : Contract)
    (input : Object) : r.checkFilter c input = c.validate input := by
  simp only [checkFilter, plain, Contract.validate, Validation.toExcept]

end RowServe.Resource
