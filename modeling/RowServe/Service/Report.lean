import RowServe.Service.Serving
import RowServe.Store.Script

/-!
# Reports

A plan is carried out with the hooks and predicates of its service on a scripted store.
The report holds the response and everything that happened on the way: what the store was
asked, which hooks and predicates were called, and which hooks failed beside the response.
-/

namespace RowServe

/-- A call of registered code. -/
inductive Notice where
  | predicate (name : String) (target : Option Json)
  | hook (call : HookCall)

/-- A hook beside the response that failed. -/
structure HookFailure where
  operation : Operation
  error : RequestError

/-- What happened so far. -/
structure Course where
  store : Recording
  notices : List Notice
  failures : List HookFailure

/-- The response to a request, and what happened on the way. -/
structure Report where
  response : Response
  entries : List StoreAction
  notices : List Notice
  failures : List HookFailure

namespace Course

/-- Nothing has happened. -/
def start (script : Script) : Course := ⟨.start script, [], []⟩

/-- The course with one more call. -/
def note (c : Course) (n : Notice) : Course := { c with notices := c.notices ++ [n] }

/-- Runs a hook on the store. -/
def runHook (s : Serving) (call : HookCall) (c : Course) :
    Except RequestError call.Result × Course :=
  let hooks := s.hooks?.getD Hooks.idle
  let (result, store) := (hooks.run ⟨s.session, s.resource⟩ call).run Recording.answer c.store
  (result, { c.note (.hook call) with store := store })

/-- The course with the failure of a hook beside the response, if it failed. -/
def noteFailure (c : Course) (event : WriteEvent) : Except RequestError Unit → Course
  | .ok () => c
  | .error e => { c with failures := c.failures ++ [⟨event.operation, e⟩] }

/-- Answers an action. -/
def answer (s : Serving) (x : ServiceAction) (c : Course) : x.Answer × Course :=
  match x with
  | .store x =>
    let (y, store) := c.store.answer x
    (y, { c with store := store })
  | .hook call => runHook s call c
  | .background event =>
    let (result, c) := runHook s (.after event) c
    ((), c.noteFailure event result)
  | .predicate name target =>
    let holds := (s.service.predicates.find? name).any fun p => p s.session target
    (holds, c.note (.predicate name target))

end Course

namespace Report

/-- A response for which nothing was done. -/
def respond (r : Response) : Report := ⟨r, [], [], []⟩

end Report

/-- Carries out a plan. -/
def Serving.report (s : Serving) (plan : ServicePlan Response) (script : Script) : Report :=
  let (result, c) := plan.run (Course.answer s) (Course.start script)
  ⟨.ofResult result, c.store.entries, c.notices, c.failures⟩

end RowServe
