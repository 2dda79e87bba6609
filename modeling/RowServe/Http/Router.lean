import RowServe.Http.Request
import RowServe.Json.Reader
import RowServe.Request.Query
import RowServe.Service.Report

/-!
# Routes

Which plan a request stands for. Three paths are about the service itself; every other
path of one segment is a resource, and two paths behind it are other ways to read. The
length of the body is checked before anything else, and the body is read before the
resource is looked up.

Results:

* `task_head`: a `HEAD` request stands for what its `GET` request stands for.
* `answer_head`: it has the same effects, and at an endpoint the same answer without the body.
-/

namespace RowServe.Http

/-- What a path leads to. -/
inductive Endpoint where
  | health
  | ready
  | version
  | rows (segment : List Char)
  | getByBody (segment : List Char)
  | listing (segment : List Char)
  deriving DecidableEq, Repr

/-- The endpoint behind one segment. -/
def Endpoint.behind? (segment : List Char) : List (List Char) → Option Endpoint
  | [] | [[]] => some (.rows segment)
  | [name] | [name, []] =>
    if name = "get".toList then some (.getByBody segment)
    else if name = "list".toList then some (.listing segment)
    else none
  | _ => none

/-- The endpoint about the service itself that a segment names. -/
def Endpoint.common? (segment : List Char) : Option Endpoint :=
  if segment = "health".toList then some .health
  else if segment = "ready".toList then some .ready
  else if segment = "version".toList then some .version
  else none

/-- The endpoint of a path. Behind a resource a slash at the end does not matter; behind an
    endpoint about the service itself nothing may follow, a lone slash included. The root
    leads nowhere, and an empty segment is a segment only with a slash behind it. -/
def Endpoint.ofPath? (path : List Char) : Option Endpoint :=
  match Text.splitOn '/' path with
  | [] :: segment :: rest =>
    if segment.isEmpty && rest.isEmpty then none
    else
      match common? segment, rest with
      | some e, [] => some e
      | some _, [[]] => none
      | _, _ => behind? segment rest
  | _ => none

/-- What a request stands for. -/
inductive Task where
  | respond (r : Response)
  /-- Asks the store whether it answers at all. -/
  | probe
  | serve (s : Serving) (plan : ServicePlan Response)

namespace Task

/-- The failure of a request. -/
def fail (e : RequestError) : Task := respond (.ofError e)

/-- A plan on a resource that is looked up first. -/
def onResource (s : Service) (route : String) (session : Session)
    (plan : Serving → ServicePlan Response) : Task :=
  match s.serving route session with
  | .ok serving => serve serving (plan serving)
  | .error e => fail e

end Task

/-! ## Bodies -/

/-- Blanks that may surround or make up a body. -/
def isBodyBlank (c : Char) : Bool :=
  c = ' ' || c = '\t' || c = '\n' || c = '\r' || c = '\x0c'

/-- The JSON value of a body; a blank body has none. -/
def bodyValue? (body : String) : Except RequestError (Option Json) :=
  if body.toList.all isBodyBlank then .ok none
  else
    match Json.parse? body with
    | some v => .ok (some v)
    | none => .error (.badRequest "invalid JSON body")

/-- The value of a body that has to be there; a blank body counts as null. -/
def bodyValue (body : String) : Except RequestError Json :=
  (bodyValue? body).map fun v => v.getD .null

/-- The input of a read by body. -/
def bodyInput (body : String) : Except RequestError Object :=
  (bodyValue body).bind fun v =>
    match v with
    | .obj entries => .ok entries
    | .null => .ok []
    | _ => .error Serving.typeError

/-- The most bytes of a body that are ever read. -/
def bufferLimit : Nat := 2097152

/-- The most bytes of the body that are read under a limit. A body that announces fewer
    bytes than the limit may not have more than it announces. -/
def bodyLimit (limit : Nat) (r : Request) : Nat :=
  min bufferLimit (match r.announcedLength with | some n => min limit n | none => limit)

/-- Is a body announced that is over the limit? -/
def announcesTooMuch (limit : Nat) (r : Request) : Bool :=
  r.announcedLength.any fun n => limit < n

/-! ## Responses of the service itself -/

/-- The response to a path that leads nowhere. -/
def noRoute (path : List Char) : Response :=
  ⟨404, .json (.ofEntries [("error", .ofEntries [
    ("code", .str "not_found"),
    ("message", .str ("no route for " ++ String.ofList path)),
    ("details", .null)])])⟩

/-- The response to a method that a path does not have. -/
def noMethod : Response := ⟨405, .text ""⟩

/-- The response to a body that is announced too long. -/
def tooLong : Response := ⟨413, .text "length limit exceeded"⟩

/-- The response to a body that turns out to be too long. -/
def tooLongBody : Response :=
  ⟨413, .text "Failed to buffer the request body: length limit exceeded"⟩

/-- The response to a segment that is no text. -/
def badSegment : Response := ⟨400, .text "Invalid URL: Invalid UTF-8 in `route`"⟩

/-- The service is up. -/
def healthy : Response := .ok (.ofEntries [("status", .str "ok")])

/-- The store answers. -/
def readyResponse : Response :=
  .ok (.ofEntries [("status", .str "ok"), ("database", .str "ok")])

/-- The store does not answer. -/
def degraded : Response :=
  ⟨503, .json (.ofEntries [("status", .str "degraded"), ("database", .str "unavailable")])⟩

/-- What is served, and how much of it. -/
def versionOf (s : Service) : Response :=
  .ok (.ofEntries [("name", .str "resource-sdk"), ("version", .str "0.1.0"),
    ("resources", .ofInt s.registry.resources.length)])

/-! ## Plans -/

/-- Does the method ask for the answer to a read? -/
def isRead (method : String) : Bool := method = "GET" || method = "HEAD"

/-- A task on the resource of a segment. -/
def withSegment (segment : List Char) (task : String → Task) : Task :=
  match segment? segment with
  | some route => task route
  | none => .respond badSegment

/-- A task that needs the body. -/
def withBody (limit : Nat) (r : Request) (task : Task) : Task :=
  if bodyLimit limit r < r.body.utf8ByteSize then .respond tooLongBody else task

/-- A plan that needs the value of the body. -/
def reading {α : Type} (value : Except RequestError α) (plan : α → ServicePlan Response) :
    ServicePlan Response :=
  (Plan.ofExcept value).bind plan

/-- What a method stands for on the rows of a resource. -/
def rowsTask (s : Service) (limit : Nat) (r : Request) (route : String) : Task :=
  let task := Task.onResource s route r.sender
  let query := Query.ofPairs r.query
  if isRead r.method then task fun serving => serving.get query
  else if r.method = "POST" then
    withBody limit r <| task fun serving => reading (bodyValue r.body) serving.post
  else if r.method = "PUT" then
    withBody limit r <| task fun serving => reading (bodyValue r.body) (serving.update .put)
  else if r.method = "PATCH" then
    withBody limit r <| task fun serving => reading (bodyValue r.body) (serving.update .patch)
  else
    withBody limit r <| task fun serving => reading (bodyValue? r.body) (serving.delete query)

/-- The methods of the rows of a resource. -/
def rowsMethods : List String := ["GET", "HEAD", "POST", "PUT", "PATCH", "DELETE"]

/-- What a method stands for at an endpoint. -/
def endpointTask (s : Service) (limit : Nat) (r : Request) : Endpoint → Task
  | .health => if isRead r.method then .respond healthy else .respond noMethod
  | .ready => if isRead r.method then .probe else .respond noMethod
  | .version => if isRead r.method then .respond (versionOf s) else .respond noMethod
  | .rows segment =>
    if rowsMethods.contains r.method then withSegment segment (rowsTask s limit r)
    else .respond noMethod
  | .getByBody segment =>
    if r.method = "POST" then
      withSegment segment fun route => withBody limit r <|
        Task.onResource s route r.sender fun serving => reading (bodyInput r.body) serving.get
    else .respond noMethod
  | .listing segment =>
    if isRead r.method then
      withSegment segment fun route =>
        Task.onResource s route r.sender fun serving => serving.list (Query.ofPairs r.query)
    else .respond noMethod

/-- What a request stands for. -/
def task (s : Service) (limit : Nat) (r : Request) : Task :=
  if announcesTooMuch limit r then .respond tooLong
  else
    match Endpoint.ofPath? r.path with
    | some e => endpointTask s limit r e
    | none => .respond (noRoute r.path)

/-! ## Answers -/

/-- The statement that any store answers. -/
def probeCommand : Sql.Command := ⟨"SELECT 1", []⟩

/-- Carries out a task on a scripted store. -/
def Task.report (script : Script) : Task → Report
  | respond r => .respond r
  | probe =>
    let (result, entries) := Recording.play (StorePlan.query probeCommand Reply.success) script
    match result with
    | .ok () => { Report.respond readyResponse with entries := entries }
    | .error _ => { Report.respond degraded with entries := entries }
  | serve s plan => s.report plan script

/-- A response to a request that asks for no body has none. -/
def forMethod (method : String) (r : Response) : Response :=
  if method = "HEAD" then { r with body := .text "" } else r

/-- The answer to a request. Only endpoints leave out the body when none is asked for. -/
def answer (s : Service) (limit : Nat) (r : Request) (script : Script) : Report :=
  let report := (task s limit r).report script
  if announcesTooMuch limit r || (Endpoint.ofPath? r.path).isNone then report
  else { report with response := forMethod r.method report.response }

theorem endpointTask_head (s : Service) (limit : Nat) (r : Request) (e : Endpoint) :
    endpointTask s limit { r with method := "HEAD" } e =
      endpointTask s limit { r with method := "GET" } e := by
  cases e <;> rfl

theorem task_head (s : Service) (limit : Nat) (r : Request) :
    task s limit { r with method := "HEAD" } = task s limit { r with method := "GET" } := by
  unfold task
  simp only [endpointTask_head]
  rfl

theorem answer_head (s : Service) (limit : Nat) (r : Request) (script : Script) :
    answer s limit { r with method := "HEAD" } script =
      let report := answer s limit { r with method := "GET" } script
      if announcesTooMuch limit r || (Endpoint.ofPath? r.path).isNone then report
      else { report with response := { report.response with body := .text "" } } := by
  have hmethod (method : String) :
      (announcesTooMuch limit { r with method } ||
        (Endpoint.ofPath? { r with method }.path).isNone) =
      (announcesTooMuch limit r || (Endpoint.ofPath? r.path).isNone) := rfl
  unfold answer
  rw [task_head]
  simp only [hmethod]
  cases announcesTooMuch limit r || (Endpoint.ofPath? r.path).isNone <;> rfl

end RowServe.Http
