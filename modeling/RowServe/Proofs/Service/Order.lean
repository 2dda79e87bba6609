import RowServe.Proofs.Service.Kept
import RowServe.Proofs.Ways
import RowServe.Service.Report

/-!
# The order of effects

What happens when a request is served, in which order, whatever hooks and store answer.
A request is admitted or nothing is done for it. An admitted request goes through the
stages of its operation: the hook that overrides it and nothing else, or the hook before
it, its statements, and the hook after a write. It gets to a stage only if the stages
before have succeeded.

Results:

* `serve_eq`: the six operations have one course.
* `effects_in_order`: all that a call may have done, wherever it stops.
* `report_way`: what a report tells is such a call.
-/

namespace RowServe

open Plan (Event Way UpTo)

/-! ## Requests -/

/-- A request for an operation of a resource. -/
inductive Demand where
  | get (input : Object)
  | list (input : Object)
  | post (body : Json)
  | put (body : Json)
  | patch (body : Json)
  | delete (query : Object) (body : Option Json)

namespace Demand

/-- The operation that is asked for. -/
def operation : Demand → Operation
  | get _ => .get
  | list _ => .list
  | post _ => .post
  | put _ => .put
  | patch _ => .patch
  | delete _ _ => .delete

/-- What permissions are asked about. A delete with a body that is no object has nothing
    that could be asked about. -/
def target : Demand → Except RequestError (Option Json)
  | get input | list input => .ok (some (.obj input))
  | post body => .ok (some body)
  | put body | patch body => .ok (body.field? "select")
  | delete query body => (Serving.deleteTarget query body).map fun input => some (.obj input)

end Demand

/-- Does the operation write? -/
def Operation.writes : Operation → Bool
  | .get | .list => false
  | .post | .put | .patch | .delete => true

/-- What is to be done for a request that is admitted. -/
inductive Admission where
  | read (filter : Object) (selection : Option (List Selected))
  | list (filter : Object) (page : PageSpec) (selection : Option (List Selected))
  | create (payload : Object)
  | update (op : Operation) (filter payload : Object)
  | delete (filter : Object) (deep : Bool)

namespace Admission

/-- The filter that a hook in place of an update is given. -/
def select : Admission → Option Object
  | update _ filter _ => some filter
  | read _ _ | list _ _ _ | create _ | delete _ _ => none

/-- The payload, or the filter of other requests. -/
def payload : Admission → Object
  | read filter _ | list filter _ _ | delete filter _ => filter
  | create payload | update _ _ payload => payload

/-- The response with the body that the hook in place of the statements gives. -/
def handled : Admission → Json → Response
  | create _ => .created
  | read _ _ | list _ _ _ | update _ _ _ | delete _ _ => .ok

/-- The hook before the statements. -/
abbrev call : Admission → HookCall
  | read filter _ => .beforeGet filter
  | list filter _ _ => .beforeList filter
  | create payload => .beforePost payload
  | update op filter payload => .beforeUpdate op filter payload
  | delete filter _ => .beforeDelete filter

/-- What the statements are made of where no hook is called before them. -/
def input : (a : Admission) → a.call.Result
  | read filter _ | list filter _ _ | delete filter _ => filter
  | create payload => payload
  | update _ filter payload => (filter, payload)

/-- What the statements give. -/
abbrev Value : Admission → Type
  | read _ _ | create _ => Json
  | list _ _ _ => ListPage
  | update _ _ _ => Int
  | delete _ _ => Deletion

variable (r : Resource)

/-- The statements. -/
def statements : (a : Admission) → a.call.Result → StorePlan a.Value
  | read _ selection, filter => r.read filter selection
  | list _ page selection, filter => r.list filter page selection
  | create _, payload => r.create payload
  | update op _ _, (filter, payload) => r.update op filter (Serving.packed r payload)
  | delete _ deep, filter => r.remove filter deep

/-- What a hook after a write is told. -/
def event : (a : Admission) → a.call.Result → a.Value → Option WriteEvent
  | read _ _, _, _ | list _ _ _, _, _ => none
  | create _, payload, key => some (.created key payload)
  | update op _ _, (filter, payload), count =>
    some (.updated op filter (Serving.packed r payload) count)
  | delete _ _, filter, deletion => some (.deleted filter deletion)

/-- The response with what the statements give. -/
def respond : (a : Admission) → a.Value → Response
  | read _ _, row => .ok row
  | list _ _ _, page => .ok page.toJson
  | create _, key => .created (.obj [(r.pk, key)])
  | update _ _ _, count => .ok (.obj [("updated", .ofInt count)])
  | delete _ _, deletion => .ok deletion.toJson

end Admission

namespace Serving

variable (s : Serving)

/-- Serves a request. -/
def serve : Demand → ServicePlan Response
  | .get input => s.get input
  | .list input => s.list input
  | .post body => s.post body
  | .put body => s.update .put body
  | .patch body => s.update .patch body
  | .delete query body => s.delete query body

/-! ## What a request has to pass -/

/-- The operation is one of the resource, and open to the session. -/
def Permits (d : Demand) : Prop :=
  s.resource.allows d.operation = true ∧ ∃ target, d.target = .ok target ∧
    s.resource.authorize d.operation s.session s.service.predicates target = .ok ()

/-- The request passes every check of its form and its fields, and this is what is to be
    done for it. -/
inductive Accepts : Demand → Admission → Prop where
  | get {input rest filter : Object} {selection : Option (List Selected)}
      (hselect : Selection.take s.resource input = .ok (selection, rest))
      (hfilter : s.resource.checkFilter s.resource.contracts.get rest = .ok filter) :
      Accepts (.get input) (.read filter selection)
  | list {input rest filter : Object} {page : PageSpec} {selection : Option (List Selected)}
      (hpage : (s.resource.contracts.pagination.validate input).1 = .ok page)
      (hselect : Selection.take s.resource (PaginationContract.rest input) = .ok (selection, rest))
      (hfilter : s.resource.checkFilter s.resource.contracts.list rest = .ok filter) :
      Accepts (.list input) (.list filter page selection)
  | post {input checked payload : Object}
      (hchecked : s.resource.contracts.post.validate input = .ok checked)
      (hkeyed : s.keyed (packed s.resource checked) = .ok payload) :
      Accepts (.post (.obj input)) (.create payload)
  | put {entries select changes filter payload : Object}
      (hselect : part entries "select" = .ok select)
      (hchanges : part entries "payload" = .ok changes)
      (hfilter : s.resource.checkFilter s.resource.contracts.get select = .ok filter)
      (hpayload : s.resource.contracts.update.validate changes = .ok payload) :
      Accepts (.put (.obj entries)) (.update .put filter payload)
  | patch {entries select changes filter payload : Object}
      (hselect : part entries "select" = .ok select)
      (hchanges : part entries "payload" = .ok changes)
      (hfilter : s.resource.checkFilter s.resource.contracts.get select = .ok filter)
      (hpayload : s.resource.contracts.update.validate changes = .ok payload) :
      Accepts (.patch (.obj entries)) (.update .patch filter payload)
  | delete {query input filter : Object} {body : Option Json}
      (htarget : deleteTarget query body = .ok input) (hsent : input ≠ [])
      (hfilter : s.resource.checkFilter s.resource.contracts.delete input = .ok filter) :
      Accepts (.delete query body) (.delete filter (isDeep query))

/-- The checks of a request, one after the other. -/
def admission : Demand → Except RequestError Admission
  | .get input => (s.getInput input).map fun x => .read x.filter x.selection
  | .list input => (s.listInput input).map fun x => .list x.filter x.page x.selection
  | .post body => (s.postInput body).map .create
  | .put body => (s.updateInput body).map fun x => .update .put x.select x.payload
  | .patch body => (s.updateInput body).map fun x => .update .patch x.select x.payload
  | .delete query body => (deleteTarget query body).bind fun input =>
    (s.deleteInput input).map fun filter => .delete filter (isDeep query)

/-- Tells the hook after a write what there is to tell. -/
def tell : Option WriteEvent → ServicePlan Unit
  | none => .done ()
  | some event => s.after event

/-- What is done without an override. -/
def stages (a : Admission) : ServicePlan Response :=
  (s.before a.input (ServicePlan.hook a.call)).bind fun input =>
    (ServicePlan.store (a.statements s.resource input)).bind fun value =>
      (s.tell (a.event s.resource input value)).bind fun () => .done (a.respond s.resource value)

/-- What is done for an admitted request. -/
def carryOut (op : Operation) (a : Admission) : ServicePlan Response :=
  s.orOverride op a.select a.payload a.handled (s.stages a)

variable {s}

theorem listInput_ok {input : Object} {x : ListInput} (h : s.listInput input = .ok x) :
    ∃ rest, (s.resource.contracts.pagination.validate input).1 = .ok x.page ∧
      Selection.take s.resource (PaginationContract.rest input) = .ok (x.selection, rest) ∧
      s.resource.checkFilter s.resource.contracts.list rest = .ok x.filter := by
  unfold listInput at h
  have hrest := PaginationContract.validate_rest s.resource.contracts.pagination input
  split at h
  · contradiction
  · rename_i page _ hpage
    rw [hpage] at hrest
    obtain ⟨⟨selection, rest⟩, hselect, h⟩ := bind_eq_ok.mp h
    obtain ⟨filter, hfilter, h⟩ := bind_eq_ok.mp h
    rw [← Except.ok.inj h]
    exact ⟨rest, by rw [hpage], hrest ▸ invalid_ok hselect, invalid_ok hfilter⟩

theorem postInput_ok {body : Json} {payload : Object} (h : s.postInput body = .ok payload) :
    ∃ input checked, body = .obj input ∧ s.resource.contracts.post.validate input = .ok checked ∧
      s.keyed (packed s.resource checked) = .ok payload := by
  unfold postInput at h
  split at h
  · obtain ⟨checked, hchecked, h⟩ := bind_eq_ok.mp h
    exact ⟨_, checked, rfl, invalid_ok hchecked, h⟩
  · contradiction

/-- What the checks let through has passed all of them. -/
theorem accepts_of_admission {d : Demand} {a : Admission} (h : s.admission d = .ok a) :
    s.Accepts d a := by
  cases d with
  | get input =>
    obtain ⟨x, hx, rfl⟩ := map_eq_ok.mp h
    obtain ⟨rest, hselect, hfilter⟩ := (getInput_ok_iff s input x).mp hx
    exact .get hselect hfilter
  | list input =>
    obtain ⟨x, hx, rfl⟩ := map_eq_ok.mp h
    obtain ⟨rest, hpage, hselect, hfilter⟩ := listInput_ok hx
    exact .list hpage hselect hfilter
  | post body =>
    obtain ⟨payload, hx, rfl⟩ := map_eq_ok.mp h
    obtain ⟨input, checked, rfl, hchecked, hkeyed⟩ := postInput_ok hx
    exact .post hchecked hkeyed
  | put body =>
    obtain ⟨x, hx, rfl⟩ := map_eq_ok.mp h
    obtain ⟨entries, select, changes, rfl, hselect, hchanges, hfilter, hpayload⟩ :=
      updateInput_ok_iff.mp hx
    exact .put hselect hchanges hfilter hpayload
  | patch body =>
    obtain ⟨x, hx, rfl⟩ := map_eq_ok.mp h
    obtain ⟨entries, select, changes, rfl, hselect, hchanges, hfilter, hpayload⟩ :=
      updateInput_ok_iff.mp hx
    exact .patch hselect hchanges hfilter hpayload
  | delete query body =>
    obtain ⟨input, htarget, h⟩ := bind_eq_ok.mp h
    obtain ⟨filter, hinput, rfl⟩ := map_eq_ok.mp h
    exact .delete htarget (deleteInput_ok hinput).1 (deleteInput_ok hinput).2

/-- A hook after a write is told of the operation that was asked for. -/
theorem Accepts.event_operation {d : Demand} {a : Admission} (h : s.Accepts d a)
    {input : a.call.Result} {value : a.Value} {event : WriteEvent}
    (hevent : a.event s.resource input value = some event) :
    event.operation = d.operation ∧ d.operation.writes = true := by
  cases h with
  | get | list => contradiction
  | post | put | patch | delete => exact Option.some.inj hevent ▸ ⟨rfl, rfl⟩

/-! ## One course -/

theorem ofExcept_map {α β γ : Type} {I : Interface} (x : Except RequestError α) (f : α → β)
    (g : β → Plan I γ) :
    (Plan.ofExcept (x.map f)).bind g = (Plan.ofExcept x).bind fun a => g (f a) := by
  cases x <;> rfl

/-- Every operation is served in the same way: permission, checks, and what is to be done
    for an admitted request. -/
theorem serve_eq (d : Demand) :
    s.serve d = (Plan.ofExcept d.target).bind fun target =>
      (s.permit d.operation target).bind fun () =>
        (Plan.ofExcept (s.admission d)).bind (s.carryOut d.operation) := by
  cases d with
  | get input | list input | post body | put body | patch body =>
    simp only [admission, ofExcept_map]
    rfl
  | delete query body =>
    simp only [Demand.target, ofExcept_map, admission, serve, delete]
    cases deleteTarget query body with
    | error e => rfl
    | ok input =>
      have hrest := ofExcept_map (s.deleteInput input)
        (fun filter => Admission.delete filter (isDeep query)) (s.carryOut .delete)
      exact congrArg (Plan.bind (s.permit .delete (some (.obj input)))) (funext fun _ => hrest.symm)

/-! ## Effects -/

/-- What an effect of a call is for. -/
inductive Stage where
  | override | before | statement | after
  deriving DecidableEq

/-- The stage of an action. A question to a predicate is none: it does nothing. -/
def Stage.ofAction : ServiceAction → Option Stage
  | .store _ => some .statement
  | .hook (.handle _ _ _) => some .override
  | .hook (.after _) | .background _ => some .after
  | .hook _ => some .before
  | .predicate _ _ => none

/-- What happens when a request is served. -/
abbrev Events := List (Event ServiceAction.interface)

/-- What is done beside asking predicates. -/
def effects (events : Events) : Events :=
  events.filter fun event => (Stage.ofAction event.action).isSome

/-- The stages that the effects of a call belong to. -/
def stagesOf (events : Events) : List Stage :=
  (effects events).filterMap fun event => Stage.ofAction event.action

variable (s)

/-- All stages of an operation, with some number of statements. -/
def course (op : Operation) (statements : Nat) : List Stage :=
  if s.isOverridden op then [.override]
  else
    (if s.hooks?.isSome then [.before] else []) ++ List.replicate statements .statement ++
      (if s.hooks?.isSome && op.writes then [.after] else [])

/-- A predicate that is asked answers as it is registered. -/
def Answers : Event ServiceAction.interface → Prop
  | ⟨.predicate name target, holds⟩ =>
    holds = (s.service.predicates.find? name).any fun p => p s.session target
  | _ => True

/-- An event of the store among those of a service. -/
def inStore (event : Event StoreAction.interface) : Event ServiceAction.interface :=
  ⟨.store event.action, event.answer⟩

/-- What there is before the statements, and what they are made of. -/
inductive Prepared (a : Admission) : Events → a.call.Result → Prop where
  | plain (h : s.hooks? = none) : Prepared a [] a.input
  | hooked (h : s.hooks?.isSome) (input : a.call.Result) :
      Prepared a [⟨.hook a.call, .ok input⟩] input

/-- What there is after the statements, for what a hook is to be told. -/
inductive Followed (op : Operation) :
    Option WriteEvent → Events → Option (Except RequestError Unit) → Prop where
  | silent {told : Option WriteEvent} {result : Option (Except RequestError Unit)}
      (h : told = none ∨ s.hooks? = none ∨ result = none) (hend : UpTo (.ok ()) result) :
      Followed op told [] result
  | awaited {event : WriteEvent} {result : Option (Except RequestError Unit)}
      (h : s.hooks?.isSome) (hop : event.operation = op) (hwrites : op.writes = true)
      (hmode : s.resource.hookMode op = .awaited) (answer : Except RequestError Unit)
      (hend : UpTo answer result) :
      Followed op (some event) [⟨.hook (.after event), answer⟩] result
  | background {event : WriteEvent} {result : Option (Except RequestError Unit)}
      (h : s.hooks?.isSome) (hop : event.operation = op) (hwrites : op.writes = true)
      (hmode : s.resource.hookMode op = .background) (hend : UpTo (.ok ()) result) :
      Followed op (some event) [⟨.background event, ()⟩] result

/-- The effects of an admitted call up to where it stops, and its result if it comes to
    its end. -/
inductive InOrder (op : Operation) (a : Admission) :
    Events → Option (Except RequestError Response) → Prop where
  /-- It stops before it does anything. -/
  | waiting : InOrder op a [] none
  /-- The override answers. -/
  | handled {result : Option (Except RequestError Response)} (h : s.isOverridden op = true)
      (answer : Except RequestError Json) (hend : UpTo (answer.map a.handled) result) :
      InOrder op a [⟨.hook (.handle op a.select a.payload), answer⟩] result
  /-- The hook before the statements refuses. -/
  | refused {result : Option (Except RequestError Response)} (h : s.isOverridden op = false)
      (hhooks : s.hooks?.isSome) (e : RequestError) (hend : UpTo (.error e) result) :
      InOrder op a [⟨.hook a.call, .error e⟩] result
  /-- The call stops among the statements. -/
  | stopped {before : Events} {input : a.call.Result} {own : List (Event StoreAction.interface)}
      (h : s.isOverridden op = false) (hbefore : s.Prepared a before input)
      (hway : (a.statements s.resource input).Way own none) :
      InOrder op a (before ++ own.map inStore) none
  /-- The statements fail. -/
  | failed {before : Events} {input : a.call.Result} {own : List (Event StoreAction.interface)}
      (h : s.isOverridden op = false) (hbefore : s.Prepared a before input) (e : RequestError)
      (hway : (a.statements s.resource input).Way own (some (.error e))) :
      InOrder op a (before ++ own.map inStore) (some (.error e))
  /-- The statements succeed. -/
  | succeeded {before after : Events} {input : a.call.Result}
      {own : List (Event StoreAction.interface)} {value : a.Value}
      {result : Option (Except RequestError Unit)}
      (h : s.isOverridden op = false) (hbefore : s.Prepared a before input)
      (hway : (a.statements s.resource input).Way own (some (.ok value)))
      (hafter : s.Followed op (a.event s.resource input value) after result) :
      InOrder op a (before ++ own.map inStore ++ after)
        (result.map fun known => known.map fun () => a.respond s.resource value)

variable {s}

/-! ## Ways of the parts -/

theorem way_store {α : Type} {p : StorePlan α} {events : Events}
    {result : Option (Except RequestError α)} :
    (ServicePlan.store p).Way events result ↔
      ∃ own, events = own.map inStore ∧ p.Way own result :=
  Plan.way_embed (I := StoreAction.interface) (J := ServiceAction.interface) (fun _ _ => rfl)
    (fun _ => Function.surjective_id)

theorem way_hook {call : HookCall} {events : Events}
    {result : Option (Except RequestError call.Result)} :
    (ServicePlan.hook call).Way events result ↔
      (events = [] ∧ result = none) ∨
        ∃ answer, events = [⟨.hook call, answer⟩] ∧ UpTo answer result := by
  simp only [ServicePlan.hook, Plan.way_act, Plan.way_ofExcept]
  constructor
  · rintro (h | ⟨answer, _, rfl, rfl, hend⟩)
    · exact .inl h
    · exact .inr ⟨answer, rfl, hend⟩
  · rintro (h | ⟨answer, rfl, hend⟩)
    · exact .inl h
    · exact .inr ⟨answer, [], rfl, rfl, hend⟩

theorem way_background {event : WriteEvent} {events : Events}
    {result : Option (Except RequestError Unit)} :
    (ServicePlan.background event).Way events result ↔
      (events = [] ∧ result = none) ∨
        (events = [⟨.background event, ()⟩] ∧ UpTo (.ok ()) result) := by
  simp only [ServicePlan.background, Plan.way_act, Plan.way_done]
  constructor
  · rintro (h | ⟨_, _, rfl, rfl, hend⟩)
    · exact .inl h
    · exact .inr ⟨rfl, hend⟩
  · rintro (h | ⟨rfl, hend⟩)
    · exact .inl h
    · exact .inr ⟨(), [], rfl, rfl, hend⟩

/-- A permission has no effects, and it is given only to whom it is due. -/
theorem permit_way {op : Operation} {target : Option Json} {events : Events}
    {result : Option (Except RequestError Unit)} (h : (s.permit op target).Way events result)
    (truthful : ∀ event ∈ events, s.Answers event) :
    effects events = [] ∧ (result = some (.ok ()) → s.resource.allows op = true ∧
      s.resource.authorize op s.session s.service.predicates target = .ok ()) := by
  unfold permit at h
  unfold Resource.authorize
  split_ifs at h with hallows
  · obtain ⟨rfl, rfl | rfl⟩ := Plan.way_fail.mp h <;> simp [effects]
  · cases hclear : s.resource.clearance op s.session with
    | granted =>
      rw [hclear] at h
      obtain ⟨rfl, _⟩ := Plan.way_done.mp h
      exact ⟨rfl, fun _ => ⟨by simpa using hallows, rfl⟩⟩
    | refused e =>
      rw [hclear] at h
      obtain ⟨rfl, rfl | rfl⟩ := Plan.way_fail.mp h <;> simp [effects]
    | depends name =>
      rw [hclear] at h
      obtain ⟨rfl, rfl⟩ | ⟨holds, rest, rfl, hrest⟩ := Plan.way_act.mp h
      · simp [effects]
      · obtain ⟨rfl, hend⟩ := Plan.way_ofExcept.mp hrest
        have hholds : holds = (s.service.predicates.find? name).any fun p => p s.session target :=
          truthful _ List.mem_cons_self
        refine ⟨rfl, fun hok => ⟨by simpa using hallows, ?_⟩⟩
        rw [hok, Plan.upTo_some] at hend
        exact (congrArg Resource.verdict hholds.symm).trans hend.symm

theorem before_way {a : Admission} {events : Events}
    {result : Option (Except RequestError a.call.Result)}
    (h : (s.before a.input (ServicePlan.hook a.call)).Way events result) :
    (events = [] ∧ result = none) ∨
      (∃ input, s.Prepared a events input ∧ UpTo (.ok input) result) ∨
      (s.hooks?.isSome ∧ ∃ e, events = [⟨.hook a.call, .error e⟩] ∧ UpTo (.error e) result) := by
  unfold before at h
  split_ifs at h with hhooks
  · obtain h | ⟨answer, rfl, hend⟩ := way_hook.mp h
    · exact .inl h
    · cases answer with
      | ok input => exact .inr (.inl ⟨input, .hooked hhooks input, hend⟩)
      | error e => exact .inr (.inr ⟨hhooks, e, rfl, hend⟩)
  · obtain ⟨rfl, hend⟩ := Plan.way_done.mp h
    exact .inr (.inl ⟨a.input, .plain (by simpa using hhooks), hend⟩)

theorem tell_way {op : Operation} {told : Option WriteEvent} {events : Events}
    {result : Option (Except RequestError Unit)} (h : (s.tell told).Way events result)
    (htold : ∀ event, told = some event → event.operation = op ∧ op.writes = true) :
    s.Followed op told events result := by
  cases told with
  | none =>
    obtain ⟨rfl, hend⟩ := Plan.way_done.mp h
    exact .silent (.inl rfl) hend
  | some event =>
    obtain ⟨rfl, hwrites⟩ := htold event rfl
    simp only [tell, after] at h
    split_ifs at h with hhooks
    · cases hmode : s.resource.hookMode event.operation with
      | awaited =>
        rw [hmode] at h
        obtain ⟨rfl, rfl⟩ | ⟨answer, rfl, hend⟩ := way_hook.mp h
        · exact .silent (.inr (.inr rfl)) (.inl rfl)
        · exact .awaited hhooks rfl hwrites hmode answer hend
      | background =>
        rw [hmode] at h
        obtain ⟨rfl, rfl⟩ | ⟨rfl, hend⟩ := way_background.mp h
        · exact .silent (.inr (.inr rfl)) (.inl rfl)
        · exact .background hhooks rfl hwrites hmode hend
    · obtain ⟨rfl, hend⟩ := Plan.way_done.mp h
      exact .silent (.inr (.inl (by simpa using hhooks))) hend

/-- A call may stop before it gives what it has come to. -/
theorem Followed.stop {op : Operation} {told : Option WriteEvent} {events : Events}
    {result : Option (Except RequestError Unit)} (h : s.Followed op told events result) :
    s.Followed op told events none := by
  cases h with
  | silent _ _ => exact .silent (.inr (.inr rfl)) (.inl rfl)
  | awaited h hop hwrites hmode answer _ => exact .awaited h hop hwrites hmode answer (.inl rfl)
  | background h hop hwrites hmode _ => exact .background h hop hwrites hmode (.inl rfl)

/-- Without an override the stages follow each other, each after the success of the one
    before. -/
theorem stages_way {op : Operation} {a : Admission} (plain : s.isOverridden op = false)
    (htold : ∀ input value event, a.event s.resource input value = some event →
      event.operation = op ∧ op.writes = true)
    {events : Events} {result : Option (Except RequestError Response)}
    (h : (s.stages a).Way events result) : s.InOrder op a events result := by
  obtain ⟨rfl, hway⟩ | ⟨e, rfl, hway⟩ | ⟨input, before, rest, rfl, hbefore, hrest⟩ :=
    Plan.way_bind.mp h
  · obtain ⟨rfl, _⟩ | ⟨input, hprepared, _⟩ | ⟨hhooks, e, rfl, _⟩ := before_way hway
    · exact .waiting
    · simpa using InOrder.stopped plain hprepared (.stop _)
    · exact .refused plain hhooks e (.inl rfl)
  · obtain ⟨_, hend⟩ | ⟨input, _, hend⟩ | ⟨hhooks, e', rfl, hend⟩ := before_way hway
    · contradiction
    · exact absurd (Plan.upTo_some.mp hend) (by simp)
    · obtain rfl := Except.error.inj (Plan.upTo_some.mp hend)
      exact .refused plain hhooks e (.inr rfl)
  · have hprepared : s.Prepared a before input := by
      obtain ⟨_, hend⟩ | ⟨input', hprepared, hend⟩ | ⟨_, e, _, hend⟩ := before_way hbefore
      · contradiction
      · exact Except.ok.inj (Plan.upTo_some.mp hend) ▸ hprepared
      · exact absurd (Plan.upTo_some.mp hend) (by simp)
    obtain ⟨rfl, hway⟩ | ⟨e, rfl, hway⟩ | ⟨value, first, told, rfl, hstore, htell⟩ :=
      Plan.way_bind.mp hrest
    · obtain ⟨own, rfl, hown⟩ := way_store.mp hway
      exact .stopped plain hprepared hown
    · obtain ⟨own, rfl, hown⟩ := way_store.mp hway
      exact .failed plain hprepared e hown
    · obtain ⟨own, rfl, hown⟩ := way_store.mp hstore
      rw [← List.append_assoc]
      obtain ⟨rfl, hway⟩ | ⟨e, rfl, hway⟩ | ⟨_, after, last, rfl, hafter, hlast⟩ :=
        Plan.way_bind.mp htell
      · exact .succeeded plain hprepared hown (tell_way hway (htold input value))
      · exact .succeeded plain hprepared hown (tell_way hway (htold input value))
      · have hfollowed := tell_way hafter (htold input value)
        obtain ⟨rfl, rfl | rfl⟩ := Plan.way_done.mp hlast
        · rw [List.append_nil]
          exact .succeeded plain hprepared hown hfollowed.stop
        · rw [List.append_nil]
          exact .succeeded plain hprepared hown hfollowed

theorem carryOut_way {op : Operation} {a : Admission}
    (htold : ∀ input value event, a.event s.resource input value = some event →
      event.operation = op ∧ op.writes = true)
    {events : Events} {result : Option (Except RequestError Response)}
    (h : (s.carryOut op a).Way events result) : s.InOrder op a events result := by
  unfold carryOut orOverride at h
  split_ifs at h with hover
  · obtain ⟨rfl, hway⟩ | ⟨e, rfl, hway⟩ | ⟨body, first, rest, rfl, hfirst, hrest⟩ :=
      Plan.way_bind.mp h
    · obtain ⟨rfl, _⟩ | ⟨answer, rfl, _⟩ := way_hook.mp hway
      · exact .waiting
      · exact .handled hover answer (.inl rfl)
    · obtain ⟨_, hend⟩ | ⟨answer, rfl, hend⟩ := way_hook.mp hway
      · contradiction
      · obtain rfl := Plan.upTo_some.mp hend
        exact .handled hover (.error e) (.inr rfl)
    · obtain ⟨_, hend⟩ | ⟨answer, rfl, hend⟩ := way_hook.mp hfirst
      · contradiction
      · obtain rfl := Plan.upTo_some.mp hend
        obtain ⟨rfl, hend⟩ := Plan.way_done.mp hrest
        exact .handled hover (.ok body) hend
  · exact stages_way (by simpa using hover) htold h

/-! ## The whole call -/

theorem course_plain {op : Operation} (h : s.isOverridden op = false) (statements : Nat) :
    s.course op statements =
      (if s.hooks?.isSome then [.before] else []) ++ List.replicate statements .statement ++
        (if s.hooks?.isSome && op.writes then [.after] else []) :=
  if_neg (by simp [h])

theorem effects_append (xs ys : Events) : effects (xs ++ ys) = effects xs ++ effects ys :=
  List.filter_append _ _

theorem stagesOf_append (xs ys : Events) : stagesOf (xs ++ ys) = stagesOf xs ++ stagesOf ys := by
  simp [stagesOf, effects_append]

theorem effects_inStore (own : List (Event StoreAction.interface)) :
    effects (own.map inStore) = own.map inStore :=
  List.filter_eq_self.mpr fun event h => by
    obtain ⟨_, _, rfl⟩ := List.mem_map.mp h
    rfl

theorem stagesOf_inStore (own : List (Event StoreAction.interface)) :
    stagesOf (own.map inStore) = List.replicate own.length .statement := by
  unfold stagesOf
  rw [effects_inStore]
  induction own with
  | nil => rfl
  | cons event own ih => exact congrArg (Stage.statement :: ·) ih

theorem effects_call (a : Admission) (answer : Except RequestError a.call.Result) :
    effects [⟨.hook a.call, answer⟩] = [⟨.hook a.call, answer⟩] ∧
      stagesOf [⟨.hook a.call, answer⟩] = [.before] := by
  cases a <;> exact ⟨rfl, rfl⟩

/-- The hook before the statements, and any of the statements. -/
theorem Prepared.effects_eq {a : Admission} {events : Events} {input : a.call.Result}
    (h : s.Prepared a events input) (own : List (Event StoreAction.interface)) :
    effects (events ++ own.map inStore) = events ++ own.map inStore ∧
      stagesOf (events ++ own.map inStore) =
        (if s.hooks?.isSome then [.before] else []) ++ List.replicate own.length .statement := by
  rw [effects_append, effects_inStore, stagesOf_append, stagesOf_inStore]
  cases h with
  | plain h => simp [effects, stagesOf, h]
  | hooked h input =>
    obtain ⟨heq, hstages⟩ := effects_call a (.ok input)
    rw [heq, hstages, if_pos h]
    exact ⟨rfl, rfl⟩

theorem Followed.effects_eq {op : Operation} {told : Option WriteEvent} {events : Events}
    {result : Option (Except RequestError Unit)} (h : s.Followed op told events result) :
    effects events = events ∧
      stagesOf events <+: if s.hooks?.isSome && op.writes then [.after] else [] := by
  cases h with
  | silent _ _ => exact ⟨rfl, List.nil_prefix⟩
  | awaited h _ hwrites _ _ _ | background h _ hwrites _ _ =>
    refine ⟨rfl, ?_⟩
    rw [h, hwrites]
    exact List.prefix_refl _

/-- The stages are those of the operation, from the first one on. -/
theorem InOrder.effects_eq {op : Operation} {a : Admission} {events : Events}
    {result : Option (Except RequestError Response)} (h : s.InOrder op a events result) :
    effects events = events ∧ ∃ n, stagesOf events <+: s.course op n := by
  cases h with
  | waiting => exact ⟨rfl, 0, List.nil_prefix⟩
  | handled h answer _ =>
    refine ⟨rfl, 0, ?_⟩
    rw [course, if_pos h]
    exact List.prefix_refl _
  | refused h hhooks e _ =>
    obtain ⟨heq, hstages⟩ := effects_call a (.error e)
    refine ⟨heq, 0, ?_⟩
    rw [hstages, course_plain h, if_pos hhooks, List.append_assoc]
    exact List.prefix_append _ _
  | @stopped _ _ own h hbefore _ | @failed _ _ own h hbefore _ _ =>
    obtain ⟨heq, hstages⟩ := hbefore.effects_eq own
    refine ⟨heq, own.length, ?_⟩
    rw [hstages, course_plain h]
    exact List.prefix_append _ _
  | @succeeded _ _ _ own _ _ h hbefore _ hafter =>
    obtain ⟨heq, hstages⟩ := hbefore.effects_eq own
    obtain ⟨heq', hstages'⟩ := hafter.effects_eq
    refine ⟨?_, own.length, ?_⟩
    · rw [effects_append, heq, heq']
    · rw [stagesOf_append, hstages, course_plain h]
      exact (List.prefix_append_right_inj _).mpr hstages'

/-- What has been done when a call ends or stops. Its effects are the first ones of the
    stages of the operation. Either it has no effect and does not succeed, or the operation
    is open to the session, the request has passed all its checks, and the effects came in
    order: each stage after the success of the stages before. -/
theorem effects_in_order (s : Serving) (d : Demand) {events : Events}
    {result : Option (Except RequestError Response)} (h : (s.serve d).Way events result)
    (truthful : ∀ event ∈ events, s.Answers event) :
    (∃ n, stagesOf events <+: s.course d.operation n) ∧
      (effects events = [] ∧ (∀ response, result ≠ some (.ok response)) ∨
        s.Permits d ∧ ∃ a, s.Accepts d a ∧ s.InOrder d.operation a (effects events) result) := by
  have hnone : effects events = [] → (∀ response, result ≠ some (.ok response)) →
      (∃ n, stagesOf events <+: s.course d.operation n) ∧
        (effects events = [] ∧ (∀ response, result ≠ some (.ok response)) ∨
          s.Permits d ∧ ∃ a, s.Accepts d a ∧ s.InOrder d.operation a (effects events) result) := by
    intro hno hfail
    exact ⟨⟨0, by simp [stagesOf, hno]⟩, .inl ⟨hno, hfail⟩⟩
  rw [serve_eq] at h
  obtain ⟨target, htarget, hasked⟩ | ⟨e, _, rfl, rfl | rfl⟩ := Plan.way_ofExcept_bind.mp h
  · obtain ⟨rfl, hway⟩ | ⟨e, rfl, hway⟩ | ⟨_, asked, rest, rfl, hpermit, hrest⟩ :=
      Plan.way_bind.mp hasked
    · exact hnone (permit_way hway truthful).1 (by simp)
    · exact hnone (permit_way hway truthful).1 (by simp)
    · obtain ⟨hno, hopen⟩ :=
        permit_way hpermit fun event he => truthful event (List.mem_append_left rest he)
      have hpermits : s.Permits d := ⟨(hopen rfl).1, target, htarget, (hopen rfl).2⟩
      obtain ⟨a, hadmission, hcarry⟩ | ⟨e, _, rfl, rfl | rfl⟩ := Plan.way_ofExcept_bind.mp hrest
      · have haccepts := accepts_of_admission hadmission
        have horder : s.InOrder d.operation a rest result :=
          carryOut_way (fun _ _ _ => haccepts.event_operation) hcarry
        obtain ⟨heq, n, hstages⟩ := horder.effects_eq
        have hrest : effects (asked ++ rest) = rest := by
          rw [effects_append, hno, heq, List.nil_append]
        rw [hrest]
        refine ⟨⟨n, ?_⟩, .inr ⟨hpermits, a, haccepts, horder⟩⟩
        rw [stagesOf_append]
        simpa [stagesOf, hno] using hstages
      · exact hnone (by simpa using hno) (by simp)
      · exact hnone (by simpa using hno) (by simp)
  · exact hnone rfl (by simp)
  · exact hnone rfl (by simp)

/-- Notes that only some may write, with a hook that runs beside the response. -/
def notes : Declarations :=
  [{ ResourceDecl.plain "Note" "note"
      [.key "id", .plain "body" .string (some (.simple "text"))] with
    info := { ResourceMeta.plain with
      route := some "note"
      permissions := some ⟨[], [(.post, .predicate "isStaff")]⟩
      hookModes := [(.post, .background)] } }]

/-- One of the staff writes notes; the hooks of notes change nothing. -/
def staffed (g : Registry) (r : Resource) : Serving :=
  ⟨⟨g, [("Note", Hooks.idle)], [("isStaff", .hasRole "staff")]⟩, r, ⟨some "7", ["staff"], none⟩⟩

/-- A note. -/
def note : Object := [("body", .str "text"), ("id", .ofInt 1)]

/-- The predicate is asked, the hook before is called, the note is stored under its key, and
    the hook after is left to run. -/
def noteEvents (cmd : Sql.Command) : Events :=
  [⟨.predicate "isStaff" (some (.obj note)), true⟩, ⟨.hook (.beforePost note), .ok note⟩,
    ⟨.store (.run cmd), .row (.json (.ofInt 1))⟩, ⟨.background (.created (.ofInt 1) note), ()⟩]

/-- A predicate that holds permits. -/
theorem permit_depends {op : Operation} {target : Option Json} {name : String}
    (hallows : s.resource.allows op = true)
    (hclear : s.resource.clearance op s.session = .depends name) :
    (s.permit op target).Way [⟨.predicate name target, true⟩] (some (.ok ())) := by
  unfold permit
  rw [if_neg (by simp [hallows]), hclear]
  exact Plan.way_act.mpr (.inr ⟨true, [], rfl, .done ()⟩)

/-- Stages that succeed one after the other. -/
theorem stages_succeed {a : Admission} {input : a.call.Result} {value : a.Value}
    {before after : Events} {own : List (Event StoreAction.interface)}
    (hbefore : (s.before a.input (ServicePlan.hook a.call)).Way before (some (.ok input)))
    (hown : (a.statements s.resource input).Way own (some (.ok value)))
    (hafter : (s.tell (a.event s.resource input value)).Way after (some (.ok ()))) :
    (s.stages a).Way (before ++ (own.map inStore ++ after))
      (some (.ok (a.respond s.resource value))) := by
  refine Plan.way_bind.mpr (.inr (.inr ⟨input, before, _, rfl, hbefore, ?_⟩))
  refine Plan.way_bind.mpr (.inr (.inr ⟨value, _, after, rfl, way_store.mpr ⟨own, rfl, hown⟩, ?_⟩))
  exact Plan.way_bind.mpr (.inr (.inr ⟨(), after, [], by simp, hafter, .done _⟩))

/-- A request that is permitted and admitted goes through its stages. -/
theorem serve_admitted {d : Demand} {target : Option Json} {a : Admission}
    {asked events : Events} {result : Option (Except RequestError Response)}
    (htarget : d.target = .ok target)
    (hpermit : (s.permit d.operation target).Way asked (some (.ok ())))
    (hadmission : s.admission d = .ok a) (hover : s.isOverridden d.operation = false)
    (hstages : (s.stages a).Way events result) : (s.serve d).Way (asked ++ events) result := by
  rw [serve_eq]
  refine Plan.way_ofExcept_bind.mpr (.inl ⟨_, htarget, ?_⟩)
  refine Plan.way_bind.mpr (.inr (.inr ⟨(), asked, events, rfl, hpermit, ?_⟩))
  refine Plan.way_ofExcept_bind.mpr (.inl ⟨_, hadmission, ?_⟩)
  unfold carryOut orOverride
  rw [if_neg (by simp [hover])]
  exact hstages

/-- A note is written by its whole course. -/
theorem note_way {g : Registry} {r : Resource} {cmd : Sql.Command} (hname : r.name = "Note")
    (hallows : r.allows .post = true)
    (hpermissions : r.permissions = some ⟨[], [(.post, .predicate "isStaff")]⟩)
    (hmode : r.hookMode .post = .background) (hextends : r.extendsOn = none)
    (hpk : r.pkFromSession = false) (hvalid : r.contracts.post.validate note = .ok note)
    (hcmd : r.insertCommand note = .ok cmd) :
    ((staffed g r).serve (.post (.obj note))).Way (noteEvents cmd)
      (some (.ok (.created (.obj [(r.pk, .ofInt 1)])))) := by
  have hhooks : (staffed g r).hooks? = some Hooks.idle := by
    simp [hooks?, Service.hooksOf?, staffed, Keyed.find?, hname]
  have hclear : r.clearance .post (staffed g r).session = .depends "isStaff" := by
    simp [Resource.clearance, hpermissions, Permissions.clearance, Session.isAuthenticated,
      staffed, List.lookup_cons_self]
  have hadmission : (staffed g r).admission (.post (.obj note)) = .ok (.create note) := by
    have hinput : (staffed g r).postInput (.obj note) = .ok note := by
      simp only [postInput, staffed, hvalid, invalid, bind, Except.bind, keyed, hpk,
        packed_plain hextends]
      rfl
    simp only [admission, hinput, Except.map]
  have hbefore : ((staffed g r).before note (ServicePlan.hook (.beforePost note))).Way
      [⟨.hook (.beforePost note), .ok note⟩] (some (.ok note)) := by
    rw [before, if_pos (by simp [hhooks])]
    exact way_hook.mpr (.inr ⟨.ok note, rfl, .inr rfl⟩)
  have hstatement : (r.create note).Way [⟨.run cmd, .row (.json (.ofInt 1))⟩]
      (some (.ok (.ofInt 1))) := by
    simp only [Resource.create, Resource.valueOf, hcmd]
    exact Plan.way_act.mpr (.inr ⟨.row (.json (.ofInt 1)), [], rfl, Way.done (Json.ofInt 1)⟩)
  have hafter : ((staffed g r).tell (some (.created (.ofInt 1) note))).Way
      [⟨.background (.created (.ofInt 1) note), ()⟩] (some (.ok ())) := by
    have hmode : (staffed g r).resource.hookMode (WriteEvent.created (.ofInt 1) note).operation =
        .background := hmode
    rw [tell, after, if_pos (by simp [hhooks]), hmode]
    exact way_background.mpr (.inr ⟨rfl, .inr rfl⟩)
  exact serve_admitted (d := .post (.obj note)) rfl (permit_depends hallows hclear) hadmission
    (by simp [Demand.operation, isOverridden, hhooks, Hooks.idle])
    (stages_succeed (a := .create note) (s := staffed g r) hbefore hstatement hafter)

theorem effects_in_order_notes :
    ∃ g, notes.resolve = .ok g ∧ ∃ r ∈ g.resources, ∃ cmd, r.insertCommand note = .ok cmd ∧
      ((staffed g r).serve (.post (.obj note))).Way (noteEvents cmd)
        (some (.ok (.created (.obj [(r.pk, .ofInt 1)])))) ∧
      (∀ event ∈ noteEvents cmd, (staffed g r).Answers event) ∧
      (∃ n, stagesOf (noteEvents cmd) <+: (staffed g r).course .post n) ∧
      (staffed g r).Permits (.post (.obj note)) ∧
      ∃ a, (staffed g r).Accepts (.post (.obj note)) a ∧
        (staffed g r).InOrder .post a (effects (noteEvents cmd))
          (some (.ok (.created (.obj [(r.pk, .ofInt 1)])))) := by
  obtain ⟨g, hg, r, hr, hP⟩ := Compile.exists_resolved notes
    (fun r => r.name = "Note" ∧ r.allows .post = true ∧
      r.permissions = some ⟨[], [(.post, .predicate "isStaff")]⟩ ∧
      r.hookMode .post = .background ∧ r.extendsOn = none ∧ r.pkFromSession = false ∧
      (r.contracts.post.validate note).toOption = some note ∧
      (r.insertCommand note).toOption.isSome = true)
    (by decide +kernel) (by decide +kernel)
  obtain ⟨hname, hallows, hpermissions, hmode, hextends, hpk, hvalid, hcmd⟩ :=
    of_decide_eq_true hP
  obtain ⟨cmd, hcmd⟩ := Option.isSome_iff_exists.mp hcmd
  have hcmd := toOption_eq_some.mp hcmd
  have hway := note_way (g := g) hname hallows hpermissions hmode hextends hpk
    (toOption_eq_some.mp hvalid) hcmd
  have truthful : ∀ event ∈ noteEvents cmd, (staffed g r).Answers event := by
    simp only [noteEvents, List.forall_mem_cons]
    exact ⟨rfl, trivial, trivial, trivial, fun _ h => absurd h List.not_mem_nil⟩
  obtain ⟨hstages, ⟨_, hfail⟩ | hdone⟩ := effects_in_order (staffed g r) _ hway truthful
  · exact absurd rfl (hfail _)
  · exact ⟨g, hg, r, hr, cmd, hcmd, hway, truthful, hstages, hdone⟩

/-- The response that a report tells is the end of a call on which every predicate answers
    as it is registered. -/
theorem report_way (s : Serving) (d : Demand) (script : Script) :
    ∃ events result, (s.serve d).Way events (some result) ∧
      (∀ event ∈ events, s.Answers event) ∧
      (s.report (s.serve d) script).response = .ofResult result := by
  have given : ∀ (x : ServiceAction) (c : Course), s.Answers ⟨x, (Course.answer s x c).1⟩ := by
    intro x c
    cases x with
    | predicate name target => rfl
    | store _ | hook _ | background _ => exact trivial
  obtain ⟨events, hway, hgiven⟩ :=
    Plan.run_way (Course.answer s) s.Answers given (s.serve d) (Course.start script)
  exact ⟨events, _, hway, hgiven, rfl⟩

end Serving

end RowServe
