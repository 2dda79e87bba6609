import RowServe.Service.Action
import RowServe.Service.Admission
import RowServe.Service.Response

/-!
# Serving

The operations of a resource as plans. Each has the same course: the permission, the
checks of the input, then either the hook that overrides the operation, or the hook
before it, its statements, and the hook after it.

Results:

* `permit_public`: a public operation asks for nothing.
-/

namespace RowServe.Serving

open ServicePlan (store hook background)

/-! ## Steps -/

/-- Refuses what the session may not do. A named predicate is asked about the target. -/
def permit (s : Serving) (op : Operation) (target : Option Json) : ServicePlan Unit :=
  if !s.resource.allows op then
    .fail (.notAllowed (op.name ++ " on " ++ s.resource.route))
  else
    match s.resource.clearance op s.session with
    | .granted => .done ()
    | .refused e => .fail e
    | .depends name =>
      .act (.predicate name target) fun holds => .ofExcept (Resource.verdict holds)

/-- The hooks of the resource. -/
def hooks? (s : Serving) : Option Hooks := s.service.hooksOf? s.resource

/-- Is the operation served by a hook alone? -/
def isOverridden (s : Serving) (op : Operation) : Bool :=
  s.hooks?.any fun h => h.overrides.contains op

/-- The input as a hook changes it; without hooks it stays as it is. -/
def before {α : Type} (s : Serving) (input : α) (call : ServicePlan α) : ServicePlan α :=
  if s.hooks?.isSome then call else .done input

/-- What follows a write. -/
def after (s : Serving) (event : WriteEvent) : ServicePlan Unit :=
  if s.hooks?.isSome then
    match s.resource.hookMode event.operation with
    | .awaited => hook (.after event)
    | .background => background event
  else .done ()

/-- Serves an operation by the hook that overrides it, if one does. -/
def orOverride (s : Serving) (op : Operation) (select : Option Object) (payload : Object)
    (respond : Json → Response) (otherwise : ServicePlan Response) : ServicePlan Response :=
  if s.isOverridden op then
    (hook (.handle op select payload)).bind fun body => .done (respond body)
  else otherwise

/-! ## What is done for an admitted request -/

/-- Reads one row. -/
def readRow (s : Serving) (x : ReadInput) : ServicePlan Response :=
  (s.before x.filter (hook (.beforeGet x.filter))).bind fun filter =>
    (store (s.resource.read filter x.selection)).bind fun row => .done (.ok row)

/-- Lists rows. -/
def listRows (s : Serving) (x : ListInput) : ServicePlan Response :=
  (s.before x.filter (hook (.beforeList x.filter))).bind fun filter =>
    (store (s.resource.list filter x.page x.selection)).bind fun page => .done (.ok page.toJson)

/-- Creates a row. -/
def createRow (s : Serving) (payload : Object) : ServicePlan Response :=
  (s.before payload (hook (.beforePost payload))).bind fun payload =>
    (store (s.resource.create payload)).bind fun key =>
      (s.after (.created key payload)).bind fun () =>
        .done (.created (.obj [(s.resource.pk, key)]))

/-- Updates rows. The fields of a nested extension are packed behind the hook. -/
def updateRows (s : Serving) (op : Operation) (x : UpdateInput) : ServicePlan Response :=
  (s.before (x.select, x.payload) (hook (.beforeUpdate op x.select x.payload))).bind fun input =>
    let payload := packed s.resource input.2
    (store (s.resource.update op input.1 payload)).bind fun count =>
      (s.after (.updated op input.1 payload count)).bind fun () =>
        .done (.ok (.obj [("updated", .ofInt count)]))

/-- Deletes rows. -/
def deleteRows (s : Serving) (filter : Object) (deep : Bool) : ServicePlan Response :=
  (s.before filter (hook (.beforeDelete filter))).bind fun filter =>
    (store (s.resource.remove filter deep)).bind fun deletion =>
      (s.after (.deleted filter deletion)).bind fun () => .done (.ok deletion.toJson)

/-! ## Operations -/

/-- Serves a read of one row. -/
def get (s : Serving) (input : Object) : ServicePlan Response :=
  (s.permit .get (some (.obj input))).bind fun () =>
    (Plan.ofExcept (s.getInput input)).bind fun x =>
      s.orOverride .get none x.filter .ok (s.readRow x)

/-- Serves a list. -/
def list (s : Serving) (input : Object) : ServicePlan Response :=
  (s.permit .list (some (.obj input))).bind fun () =>
    (Plan.ofExcept (s.listInput input)).bind fun x =>
      s.orOverride .list none x.filter .ok (s.listRows x)

/-- Serves a create. -/
def post (s : Serving) (body : Json) : ServicePlan Response :=
  (s.permit .post (some body)).bind fun () =>
    (Plan.ofExcept (s.postInput body)).bind fun payload =>
      s.orOverride .post none payload .created (s.createRow payload)

/-- Serves an update that replaces or patches; its target is the filter as it was sent. -/
def update (s : Serving) (op : Operation) (body : Json) : ServicePlan Response :=
  (s.permit op (body.field? "select")).bind fun () =>
    (Plan.ofExcept (s.updateInput body)).bind fun x =>
      s.orOverride op (some x.select) x.payload .ok (s.updateRows op x)

/-- Serves a delete. -/
def delete (s : Serving) (query : Object) (body : Option Json) : ServicePlan Response :=
  (Plan.ofExcept (deleteTarget query body)).bind fun input =>
    (s.permit .delete (some (.obj input))).bind fun () =>
      (Plan.ofExcept (s.deleteInput input)).bind fun filter =>
        s.orOverride .delete none filter .ok (s.deleteRows filter (isDeep query))

theorem permit_public {s : Serving} {op : Operation} (allowed : s.resource.allows op = true)
    (granted : s.resource.clearance op s.session = .granted) (target : Option Json) :
    s.permit op target = .done () := by
  simp [permit, allowed, granted]

end RowServe.Serving

namespace RowServe.Service

/-- A resource of the service, found by its route. -/
def serving (s : Service) (route : String) (session : Session) : Except RequestError Serving :=
  match s.registry.byRoute? route with
  | some r => .ok ⟨s, r, session⟩
  | none => .error (.notFound ("resource '" ++ route ++ "'"))

end RowServe.Service
