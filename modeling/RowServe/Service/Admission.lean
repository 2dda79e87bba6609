import RowServe.Request.Filter
import RowServe.Request.Selection
import RowServe.Service.Basic

/-!
# Admission

What a request has to pass before anything is done for it: the checks of its form and of
its fields, one function per operation. What passes is the cleaned input.

Results:

* `getInput_ok_iff`: what a read has to pass.
* `packed_plain`: only nested extensions are packed.
-/

namespace RowServe

/-- One resource, served to one session. -/
structure Serving where
  service : Service
  resource : Resource
  session : Session

/-- What is read: a filter, and a selection if there is one. -/
structure ReadInput where
  filter : Object
  selection : Option (List Selected)

/-- What is listed. -/
structure ListInput where
  filter : Object
  page : PageSpec
  selection : Option (List Selected)

/-- What is updated, and how. -/
structure UpdateInput where
  select : Object
  payload : Object

namespace Serving

/-! ## Messages -/

/-- The message for an input that is no object. -/
def typeMessage : String := "Invalid input type."

/-- The message for a delete without a filter. -/
def emptyInputMessage : String := "Payload cannot be empty"

/-- The message for a part of an update that is absent. -/
def partMessage : String := "This field is required"

/-- The message for a part of an update that is empty. -/
def emptyPartMessage : String := "This field cannot be empty"

/-- The error for an input that is no object. -/
def typeError : RequestError := .field "_schema" typeMessage

/-- Field errors as the errors of a request. -/
def invalid {α : Type} : Except FieldErrors α → Except RequestError α
  | .ok a => .ok a
  | .error errors => .error (.invalid errors)

/-! ## Reads -/

/-- The input of a read. -/
def getInput (s : Serving) (input : Object) : Except RequestError ReadInput := do
  let (selection, rest) ← invalid (Selection.take s.resource input)
  let filter ← invalid (s.resource.checkFilter s.resource.contracts.get rest)
  return ⟨filter, selection⟩

/-- The input of a list. -/
def listInput (s : Serving) (input : Object) : Except RequestError ListInput :=
  match s.resource.contracts.pagination.validate input with
  | (.error errors, _) => .error (.invalid (errors.wrap "query"))
  | (.ok page, rest) => do
    let (selection, rest) ← invalid (Selection.take s.resource rest)
    let filter ← invalid (s.resource.checkFilter s.resource.contracts.list rest)
    return ⟨filter, page, selection⟩

/-! ## Writes -/

/-- The fields of a nested extension moved into the column that holds them. -/
def packed (r : Resource) (payload : Object) : Object :=
  match r.kidColumn with
  | none => payload
  | some column =>
    let own := payload.filter fun e => r.isChildField e.1
    let others : Object := payload.filter fun e => !r.isChildField e.1
    if own.isEmpty then others else others.insert column (.obj own)

/-- The digits of an integer with an optional sign, in the signed 64-bit range. -/
def integerKey? (actor : String) : Option Int :=
  if Text.trim actor = actor then Number.integer? actor else none

/-- The key of a new row that belongs to the actor of the session. -/
def sessionKey (r : Resource) (actor : String) : Except RequestError Json :=
  if (r.field? r.pk).any fun f => f.decl.valueType.isNumeric then
    match integerKey? actor with
    | some n => .ok (.ofInt n)
    | none => .error (.field r.pk "Not a valid integer.")
  else .ok (.str actor)

/-- The payload with the key that the session gives, if it gives one. -/
def keyed (s : Serving) (payload : Object) : Except RequestError Object :=
  if !s.resource.pkFromSession then .ok payload
  else
    match s.session.actorId with
    | none => .error .unauthorized
    | some actor => do
      let key ← sessionKey s.resource actor
      return payload.insert s.resource.pk key

/-- The payload of a create. -/
def postInput (s : Serving) (body : Json) : Except RequestError Object :=
  match body with
  | .obj input => do
    let payload ← invalid (s.resource.contracts.post.validate input)
    s.keyed (packed s.resource payload)
  | _ => .error typeError

/-- One of the two parts of an update. -/
def part (body : Object) (key : String) : Except FieldErrors Object :=
  match body.find? key with
  | none | some .null => .error (.single key partMessage)
  | some (.obj []) => .error (.single key emptyPartMessage)
  | some (.obj entries) => .ok entries
  | some _ => .error (.single key typeMessage)

/-- Two checks that are both made; the errors of both are told. -/
def both {α β : Type} : Except FieldErrors α → Except FieldErrors β → Except RequestError (α × β)
  | .ok a, .ok b => .ok (a, b)
  | .error e, .ok _ => .error (.invalid e)
  | .ok _, .error e => .error (.invalid e)
  | .error e, .error e' => .error (.invalid (e.union e'))

/-- The errors of a check under a key. -/
def under {α : Type} (key : String) : Except FieldErrors α → Except FieldErrors α
  | .ok a => .ok a
  | .error e => .error (e.wrap key)

/-- The input of an update. -/
def updateInput (s : Serving) (body : Json) : Except RequestError UpdateInput :=
  match body with
  | .obj body => do
    let (select, payload) ← both (part body "select") (part body "payload")
    let (select, payload) ← both
      (under "select" (s.resource.checkFilter s.resource.contracts.get select))
      (under "payload" (s.resource.contracts.update.validate payload))
    return ⟨select, payload⟩
  | _ => .error typeError

/-- The texts that switch something on. -/
def trueTexts : List String := ["true", "1", "yes"]

/-- Does a value switch something on? Of several texts the last one counts. -/
def switchedOn : Json → Bool
  | .bool b => b
  | v => v.nameList.getLast?.any fun t => trueTexts.contains (Text.toLower t)

/-- Is a delete asked to look after the arrays of other tables? -/
def isDeep (query : Object) : Bool := (query.find? "deep").any switchedOn

/-- The filter of a delete before it is checked: the query, with the body put over it. -/
def deleteTarget (query : Object) (body : Option Json) : Except RequestError Object :=
  let query := query.erase "deep"
  match body with
  | none | some .null => .ok query
  | some (.obj entries) => .ok (query.union entries)
  | some _ => .error typeError

/-- The filter of a delete. -/
def deleteInput (s : Serving) (input : Object) : Except RequestError Object :=
  if input.isEmpty then .error (.field "_schema" emptyInputMessage)
  else invalid (s.resource.checkFilter s.resource.contracts.delete input)

theorem getInput_ok_iff (s : Serving) (input : Object) (r : ReadInput) :
    s.getInput input = .ok r ↔
      ∃ rest, Selection.take s.resource input = .ok (r.selection, rest) ∧
        s.resource.checkFilter s.resource.contracts.get rest = .ok r.filter := by
  obtain ⟨filter, selection⟩ := r
  simp only [getInput, bind, Except.bind, pure, Except.pure]
  cases ht : Selection.take s.resource input with
  | error e => simp [invalid]
  | ok t =>
    obtain ⟨sel, rest⟩ := t
    cases hf : s.resource.checkFilter s.resource.contracts.get rest with
    | error e =>
      simp only [invalid, hf, Except.ok.injEq, Prod.mk.injEq]
      constructor
      · intro h; contradiction
      · rintro ⟨_, ⟨rfl, rfl⟩, h⟩; rw [hf] at h; contradiction
    | ok f =>
      simp only [invalid, hf, Except.ok.injEq, ReadInput.mk.injEq, Prod.mk.injEq]
      constructor
      · rintro ⟨rfl, rfl⟩; exact ⟨rest, ⟨rfl, rfl⟩, hf⟩
      · rintro ⟨_, ⟨rfl, rfl⟩, h⟩
        rw [hf] at h
        exact ⟨Except.ok.inj h, rfl⟩

theorem packed_plain {r : Resource} (plain : r.extendsOn = none) (payload : Object) :
    packed r payload = payload := by
  simp [packed, Resource.kidColumn, plain]

end Serving

end RowServe
