import RowServe.Proofs.Service.Assigned

/-!
# Own fields of nested extensions in storage

The fields that an extension adds have no columns. They are stored in the document for the
column of the extension, and a request that writes packs them into it. An update does so behind
the hook before its statement, so what the hook sets is packed with the rest. A create does so
before its hook is called, and what the hook sets beside the document has no column to go to.

Results:

* `statement_on_way`: a statement on the way of a call, and what it is made of.
* `stores_insert_iff`, `stores_update_iff`: what one statement stores of a payload.
* `created_own`: the payload of an accepted create has its own fields in the document only.
* `stored_iff`: which values of own fields are stored, whatever the hooks do.
* `unpacked_field`: a field that a hook sets, and that is lost.
-/

namespace RowServe

open Plan (Event Way)
open RowServe.Filter (bindAll filterUses)
open Sql (Assignment Param)

/-! ## Entries of documents -/

/-- A payload has an object under a name, and in it the value under a key. -/
def Within (payload : Object) (c k : String) (v : Json) : Prop :=
  ∃ es : Object, payload.find? c = some (.obj es) ∧ es.find? k = some v

/-- A column gets an object with the value under a key. -/
def Sql.Stores (values : List Assignment) (params : List Param) (c k : String) (v : Json) : Prop :=
  ∃ es : Object, Sql.Sets values params c (.json (.obj es)) ∧ es.find? k = some v

namespace Resource

variable {r : Resource} {filter payload : Object} {c k : String} {v : Json} {cmd : Sql.Command}

/-- A payload gives the value for a field that the extension adds: beside the document for the
    column, or within it. -/
def GivesOwn (r : Resource) (c : String) (payload : Object) (k : String) (v : Json) : Prop :=
  r.isChildField k = true ∧ (payload.find? k = some v ∨ Within payload c k v)

/-- The value is still there in what an update binds for the document. What the filter binds
    under the name of the document takes its place. Otherwise it is made of the fields beside it,
    or it stays as it is if there are none. -/
inductive KeptByUpdate (r : Resource) (c : String) (filter payload : Object) (k : String)
    (v : Json) : Prop where
  | foreign {u : Use} {es : Object}
      (hu : (filterUses r.toTableView filter).find? (·.name = "u_" ++ c) = some u)
      (hes : u.value = .json (.obj es)) (hk : es.find? k = some v)
  | beside (hfree : (filterUses r.toTableView filter).find? (·.name = "u_" ++ c) = none)
      (hk : payload.find? k = some v)
  | within (hfree : (filterUses r.toTableView filter).find? (·.name = "u_" ++ c) = none)
      (hown : Serving.ownPart r payload = []) (hk : Within payload c k v)

/-- The text of an insert is its template with the columns and the values in its slots, and its
    parameters are what these bind. -/
structure Inserted (r : Resource) (payload : Object) (cmd : Sql.Command) : Prop where
  text : r.templates.insert.render
    ((Sql.Template.Values.empty.set .cols (Sql.columnList (r.insertedValues payload))).set .vals
      (Sql.valueList (r.insertedValues payload))) = .ok cmd.text
  params : cmd.params =
    (bindAll [] (Change.insertionUses r.toTableView r.autoincrement payload)).params

theorem inserted (h : r.insertCommand payload = .ok cmd) : r.Inserted payload cmd := by
  obtain ⟨htext, hparams⟩ := complete_ok (insertCommand_ok h)
  exact ⟨htext, hparams⟩

/-- An insert stores what is in the document already. -/
theorem stores_insert_iff (hc : c ∈ r.columnNames) (hkey : c ≠ r.pk) :
    Sql.Stores (r.insertedValues payload)
        (bindAll [] (Change.insertionUses r.toTableView r.autoincrement payload)).params c k v ↔
      Within payload c k v := by
  have hgenerated : r.generatedKey ≠ some c := by
    intro h
    obtain ⟨_, _, hpk⟩ := Option.map_eq_some_iff.mp h
    exact hkey hpk.symm
  constructor
  · rintro ⟨es, hsets, hk⟩
    exact ⟨es, (insert_sets_iff hc hgenerated).mp hsets, hk⟩
  · rintro ⟨es, hes, hk⟩
    exact ⟨es, (insert_sets_iff hc hgenerated).mpr hes, hk⟩

/-- Packed, a payload with an own field has a document for the column: the fields beside it, or
    the document that is there. -/
theorem packed_own (hkid : r.kidColumn = some c) (hchild : r.isChildField c = false)
    (h : r.GivesOwn c payload k v) :
    ∃ es : Object, (Serving.packed r payload).find? c = some (.obj es) ∧
      (es.find? k = some v ↔
        payload.find? k = some v ∨ Serving.ownPart r payload = [] ∧ Within payload c k v) := by
  obtain ⟨hk, hgiven⟩ := h
  have hdocument : (Serving.packed r payload).find? c = _ := Serving.packed_document hkid hchild
  have hfind : (Serving.ownPart r payload).find? k = payload.find? k := by
    rw [Serving.find?_ownPart, if_pos hk]
  by_cases hown : Serving.ownPart r payload = []
  · rw [hown] at hfind
    have hbeside : payload.find? k ≠ some v := by
      rw [← hfind]
      exact Option.some_ne_none v ∘ Eq.symm
    obtain ⟨es, hes, hv⟩ := hgiven.resolve_left hbeside
    rw [if_pos hown] at hdocument
    exact ⟨es, hdocument.trans hes, iff_of_true hv (.inr ⟨hown, es, hes, hv⟩)⟩
  · rw [if_neg hown] at hdocument
    refine ⟨_, hdocument, ?_⟩
    rw [hfind]
    exact (or_iff_left fun h => hown h.1).symm

/-- What an update stores of the own fields that its payload has behind the hook. -/
theorem stores_update_iff (hkid : r.kidColumn = some c) (hchild : r.isChildField c = false)
    (hc : c ∈ r.columnNames) (hkey : c ≠ r.pk) (op : Operation) (h : r.GivesOwn c payload k v) :
    Sql.Stores (r.assignmentsBehind op filter (Serving.packed r payload))
        (bindAll [] ((Call.update op filter (Serving.packed r payload)).uses r)).params c k v ↔
      r.KeptByUpdate c filter payload k v := by
  obtain ⟨own, hdocument, hown⟩ := packed_own hkid hchild h
  have hsets (es : Object) :
      Sql.Sets (r.assignmentsBehind op filter (Serving.packed r payload))
          (bindAll [] ((Call.update op filter (Serving.packed r payload)).uses r)).params c
          (.json (.obj es)) ↔ .json (.obj es) = r.document filter c own :=
    update_sets_iff op hdocument hc hkey
  unfold Sql.Stores
  simp only [hsets]
  unfold document
  cases hfirst : (filterUses r.toTableView filter).find? (·.name = "u_" ++ c) with
  | some u =>
    constructor
    · rintro ⟨es, hes, hk⟩
      exact .foreign hfirst hes.symm hk
    · intro h
      cases h with
      | foreign hu hes hk =>
        obtain rfl := Option.some.inj (hfirst.symm.trans hu)
        exact ⟨_, hes.symm, hk⟩
      | beside hfree _ | within hfree _ _ =>
        rw [hfirst] at hfree
        contradiction
  | none =>
    constructor
    · rintro ⟨es, hes, hk⟩
      obtain rfl : es = own := Json.obj.inj (Param.json.inj hes)
      rcases hown.mp hk with hbeside | ⟨hnone, hwithin⟩
      · exact .beside hfirst hbeside
      · exact .within hfirst hnone hwithin
    · intro h
      refine ⟨own, rfl, hown.mpr ?_⟩
      cases h with
      | foreign hu _ _ =>
        rw [hfirst] at hu
        contradiction
      | beside _ hk => exact .inl hk
      | within _ hnone hk => exact .inr ⟨hnone, hk⟩

/-! ## Statements on the way -/

theorem query_way {α : Type} {read : Reply → Except RequestError α}
    {own : List (Event StoreAction.interface)} {a : α}
    (h : (StorePlan.query cmd read).Way own (some (.ok a))) :
    ∃ reply : Reply, ⟨.run cmd, reply⟩ ∈ own := by
  obtain ⟨_, hend⟩ | ⟨reply, rest, rfl, _⟩ := Plan.way_act.mp h
  · contradiction
  · exact ⟨reply, List.mem_cons_self⟩

/-- A create that succeeds has run a statement. -/
theorem create_way {own : List (Event StoreAction.interface)} {key : Json}
    (h : (r.create payload).Way own (some (.ok key))) :
    ∃ (cmd : Sql.Command) (reply : Reply), ⟨.run cmd, reply⟩ ∈ own := by
  unfold create valueOf at h
  obtain ⟨hend, _⟩ | ⟨_, hend, _⟩ | ⟨_, first, rest, rfl, hfirst, _⟩ := Plan.way_bind.mp h
  · contradiction
  · exact absurd (Option.some.inj hend) (by simp)
  · obtain ⟨cmd, _, hquery⟩ | ⟨_, _, _, hend⟩ := Plan.way_ofExcept_bind.mp hfirst
    · obtain ⟨reply, hrun⟩ := query_way hquery
      exact ⟨cmd, reply, List.mem_append_left _ hrun⟩
    · exact absurd (Plan.upTo_some.mp hend) (by simp)

/-- An update that succeeds has run a statement. -/
theorem update_way {op : Operation} {own : List (Event StoreAction.interface)} {count : Int}
    (h : (r.update op filter payload).Way own (some (.ok count))) :
    ∃ (cmd : Sql.Command) (reply : Reply), ⟨.run cmd, reply⟩ ∈ own := by
  unfold update at h
  obtain ⟨cmd, _, hrest⟩ | ⟨_, _, _, hend⟩ := Plan.way_ofExcept_bind.mp h
  · obtain ⟨_, hend⟩ | ⟨reply, rest, rfl, _⟩ := Plan.way_act.mp hrest
    · contradiction
    · exact ⟨cmd, reply, List.mem_cons_self⟩
  · exact absurd (Plan.upTo_some.mp hend) (by simp)

end Resource

namespace Admission

variable (r : Resource)

/-- The payload that the statements are made of, or the filter of other requests. -/
def prepared : (a : Admission) → a.call.Result → Object
  | read _ _, filter => filter
  | list _ _ _, filter => filter
  | create _, payload => payload
  | update _ _ _, (_, payload) => payload
  | delete _ _, filter => filter

/-- What the statement gives to columns; only writes give anything. -/
def assigned : (a : Admission) → a.call.Result → List Assignment
  | create _, payload => r.insertedValues payload
  | update op _ _, (filter, payload) =>
    r.assignmentsBehind op filter (Serving.packed r payload)
  | _, _ => []

/-- The statement of a write. -/
def Renders : (a : Admission) → a.call.Result → Sql.Command → Prop
  | create _, payload, cmd => r.Inserted payload cmd
  | update op _ _, (filter, payload), cmd =>
    (Call.update op filter (Serving.packed r payload)).Rendered r cmd
  | _, _, _ => False

/-- The value of an own field is still there in the document that is stored. -/
def Keeps (c : String) : (a : Admission) → a.call.Result → String → Json → Prop
  | create _, payload, k, v => Within payload c k v
  | update _ _ _, (filter, payload), k, v => r.KeptByUpdate c filter payload k v
  | _, _, _, _ => False

end Admission

namespace Serving

variable {s : Serving} {a : Admission} {cmd : Sql.Command} {reply : Reply}

theorem Prepared.no_statement {before : Events} {input : a.call.Result}
    (h : s.Prepared a before input) {x : StoreAction} {answer : x.Answer} :
    ⟨.store x, answer⟩ ∉ before := by
  cases h with
  | plain _ => exact List.not_mem_nil
  | hooked _ _ =>
    intro hmem
    exact ServiceAction.noConfusion (congrArg Event.action (List.mem_singleton.mp hmem))

theorem Followed.no_statement {op : Operation} {told : Option WriteEvent} {events : Events}
    {result : Option (Except RequestError Unit)} (h : s.Followed op told events result)
    {x : StoreAction} {answer : x.Answer} : ⟨.store x, answer⟩ ∉ events := by
  cases h with
  | silent _ _ => exact List.not_mem_nil
  | awaited _ _ _ _ _ _ | background _ _ _ _ _ =>
    intro hmem
    exact ServiceAction.noConfusion (congrArg Event.action (List.mem_singleton.mp hmem))

/-- A statement among the effects of an admitted call is one that is made for it, of what there
    is before the statements. -/
theorem InOrder.statement {op : Operation} {events : Events}
    {result : Option (Except RequestError Response)} (h : s.InOrder op a events result)
    (hrun : ⟨.store (.run cmd), reply⟩ ∈ events) :
    ∃ before input, s.Prepared a before input ∧ before <+: events ∧
      (a.statements s.resource input).Performs (StoreAction.run cmd) := by
  have hown {input : a.call.Result} {own : List (Event StoreAction.interface)}
      {end? : Option (Except RequestError a.Value)}
      (hway : (a.statements s.resource input).Way own end?)
      (hmem : ⟨.store (.run cmd), reply⟩ ∈ own.map inStore) :
      (a.statements s.resource input).Performs (StoreAction.run cmd) := by
    obtain ⟨event, hevent, hstore⟩ := List.mem_map.mp hmem
    have haction : event.action = .run cmd := ServiceAction.store.inj (congrArg Event.action hstore)
    exact haction ▸ hway.path.performs _ (List.mem_map_of_mem hevent)
  cases h with
  | waiting => exact absurd hrun List.not_mem_nil
  | handled _ _ _ | refused _ _ _ _ =>
    exact ServiceAction.noConfusion (congrArg Event.action (List.mem_singleton.mp hrun))
  | @stopped before input _ _ hbefore hway | @failed before input _ _ hbefore _ hway =>
    refine ⟨before, input, hbefore, List.prefix_append _ _, hown hway ?_⟩
    exact (List.mem_append.mp hrun).resolve_left hbefore.no_statement
  | @succeeded before after input _ _ _ _ hbefore hway hafter =>
    refine ⟨before, input, hbefore, ⟨_, (List.append_assoc _ _ _).symm⟩, hown hway ?_⟩
    have hstatements := (List.mem_append.mp hrun).resolve_right hafter.no_statement
    exact (List.mem_append.mp hstatements).resolve_left hbefore.no_statement

/-- A statement on the way of a call is made for an admission of its request, of what there is
    before the statements. -/
theorem statement_on_way {w : Demand} {events : Events}
    {result : Option (Except RequestError Response)} (hway : (s.serve w).Way events result)
    (truthful : ∀ event ∈ events, s.Answers event)
    (hrun : ⟨.store (.run cmd), reply⟩ ∈ events) :
    ∃ a, s.Accepts w a ∧ ∃ before input, s.Prepared a before input ∧
      before <+: effects events ∧
      (a.statements s.resource input).Performs (StoreAction.run cmd) := by
  have heffect : ⟨.store (.run cmd), reply⟩ ∈ effects events := List.mem_filter.mpr ⟨hrun, rfl⟩
  obtain ⟨_, ⟨hno, _⟩ | ⟨_, a, haccepts, horder⟩⟩ := effects_in_order s w hway truthful
  · rw [hno] at heffect
    exact absurd heffect List.not_mem_nil
  · exact ⟨a, haccepts, horder.statement heffect⟩

/-- The statements of a write that succeed are not empty. -/
theorem Accepts.runs {w : Demand} (h : s.Accepts w a)
    (hw : w.operation ∈ [Operation.post, .put, .patch]) {input : a.call.Result} {value : a.Value}
    {own : List (Event StoreAction.interface)}
    (hway : (a.statements s.resource input).Way own (some (.ok value))) :
    ∃ (cmd : Sql.Command) (reply : Reply), ⟨.run cmd, reply⟩ ∈ own := by
  cases h with
  | get | list | delete => exact absurd hw (by simp [Demand.operation])
  | post => exact Resource.create_way hway
  | put | patch => exact Resource.update_way hway

/-- A write that succeeds without an override has run a statement. -/
theorem run_of_success {w : Demand} (hw : w.operation ∈ [Operation.post, .put, .patch])
    (hover : s.isOverridden w.operation = false) {events : Events} {response : Response}
    (hway : (s.serve w).Way events (some (.ok response)))
    (truthful : ∀ event ∈ events, s.Answers event) :
    ∃ (cmd : Sql.Command) (reply : Reply), ⟨.store (.run cmd), reply⟩ ∈ events := by
  obtain ⟨_, ⟨_, hfail⟩ | ⟨_, a, haccepts, horder⟩⟩ := effects_in_order s w hway truthful
  · exact absurd rfl (hfail response)
  · generalize hend : some (Except.ok response) = result at horder
    generalize heffects : effects events = ran at horder
    cases horder with
    | waiting | stopped _ _ _ => contradiction
    | handled h _ _ =>
      rw [hover] at h
      contradiction
    | refused _ _ _ hrefused =>
      rw [← hend, Plan.upTo_some] at hrefused
      contradiction
    | failed _ _ _ _ => exact absurd (Option.some.inj hend) (by simp)
    | succeeded _ _ hown _ =>
      obtain ⟨cmd, reply, hrun⟩ := haccepts.runs hw hown
      refine ⟨cmd, reply, List.mem_of_mem_filter (p := fun event =>
        (Stage.ofAction event.action).isSome) ?_⟩
      rw [← effects, heffects]
      exact List.mem_append_left _ (List.mem_append_right _ (List.mem_map_of_mem hrun))

/-! ## What is stored -/

variable {ds : Declarations} {g : Registry} {c : String}

/-- The payload of an accepted create has the fields that the extension adds in the document
    only. -/
theorem created_own (hg : ds.resolve = .ok g) (hr : s.resource ∈ g.resources)
    (hkid : s.resource.kidColumn = some c) {w : Demand} {payload : Object}
    (h : s.Accepts w (.create payload)) {k : String} (hchild : s.resource.isChildField k = true) :
    payload.find? k = none := by
  obtain ⟨d, hmem, hd⟩ := Compile.mem_resolved hg hr
  have hcheck : ds.check = .ok () := (Compile.resolve_ok_iff.mp hg).1
  have hstored : c ∈ s.resource.columnNames := Compile.kidColumn_stored hcheck hmem hd hkid
  cases h with
  | post hchecked hkeyed =>
    have hcolumn : k ≠ c := by
      rintro rfl
      rw [Compile.columnName_not_child hd hstored] at hchild
      contradiction
    have hkey : k ≠ s.resource.pk := by
      rintro rfl
      rw [Compile.key_not_child hd] at hchild
      contradiction
    rw [keyed_find? hkeyed fun h => hkey h.2]
    exact packed_child hkid hchild hcolumn

/-- What becomes of own fields when a request is served, whatever the hooks do. An accepted create
    has them within the document when its hook is called. A create or an update that succeeds
    without an override has run a statement. Of the values that the payload has for own fields
    behind the hook, a statement stores in the document for the column exactly those that are kept:
    a create keeps what is within the document already, and an update keeps what is packed, if its
    filter binds nothing in the place of the document. -/
theorem stored_iff (hg : ds.resolve = .ok g) (hr : s.resource ∈ g.resources)
    (hkid : s.resource.kidColumn = some c) (hkey : c ≠ s.resource.pk) {w : Demand}
    (hw : w.operation ∈ [Operation.post, .put, .patch]) {events : Events}
    {result : Option (Except RequestError Response)} (hway : (s.serve w).Way events result)
    (truthful : ∀ event ∈ events, s.Answers event) :
    (∀ payload, s.Accepts w (.create payload) → ∀ k, s.resource.isChildField k = true →
      payload.find? k = none) ∧
    (∀ response, result = some (.ok response) → s.isOverridden w.operation = false →
      ∃ (cmd : Sql.Command) (reply : Reply), ⟨.store (.run cmd), reply⟩ ∈ events) ∧
    ∀ (cmd : Sql.Command) (reply : Reply), ⟨.store (.run cmd), reply⟩ ∈ events →
      ∃ a, s.Accepts w a ∧ ∃ before input, s.Prepared a before input ∧
        before <+: effects events ∧ a.Renders s.resource input cmd ∧
        ∀ k v, s.resource.GivesOwn c (a.prepared input) k v →
          (Sql.Stores (a.assigned s.resource input) cmd.params c k v ↔
            a.Keeps s.resource c input k v) := by
  obtain ⟨d, hmem, hd⟩ := Compile.mem_resolved hg hr
  have hcheck : ds.check = .ok () := (Compile.resolve_ok_iff.mp hg).1
  have hstored : c ∈ s.resource.columnNames := Compile.kidColumn_stored hcheck hmem hd hkid
  have hchild : s.resource.isChildField c = false := Compile.columnName_not_child hd hstored
  refine ⟨fun payload haccepts k hk => created_own hg hr hkid haccepts hk, ?_,
    fun cmd reply hrun => ?_⟩
  · rintro response rfl hover
    exact run_of_success hw hover hway truthful
  · obtain ⟨a, haccepts, before, input, hbefore, hprefix, hperforms⟩ :=
      statement_on_way hway truthful hrun
    refine ⟨a, haccepts, before, input, hbefore, hprefix, ?_⟩
    cases haccepts with
    | get | list | delete => exact absurd hw (by simp [Demand.operation])
    | post =>
      have hinserted : s.resource.Inserted input cmd :=
        Resource.inserted (Resource.create_performs.mp hperforms)
      refine ⟨hinserted, fun k v _ => ?_⟩
      rw [hinserted.params]
      exact Resource.stores_insert_iff hstored hkey
    | put | patch =>
      obtain ⟨filter, payload⟩ := input
      have hcommand : (Call.update _ filter (packed s.resource payload)).command s.resource =
          .ok cmd := Resource.update_performs.mp hperforms
      have hrendered := Call.rendered hcommand
      refine ⟨hrendered, fun k v hgiven => ?_⟩
      rw [hrendered.params]
      exact Resource.stores_update_iff hkid hchild hstored hkey _ hgiven

/-! ## Hooks that set an own field -/

/-- What happens on a call with a hook before its statements and one behind them. -/
def hookedEvents (a : Admission) (input : a.call.Result)
    (own : List (Event StoreAction.interface)) (event : WriteEvent) : Events :=
  ⟨.hook a.call, .ok input⟩ :: (own.map inStore ++ [⟨.hook (.after event), .ok ()⟩])

theorem hooked_truthful (s : Serving) (input : a.call.Result)
    (own : List (Event StoreAction.interface)) (event : WriteEvent) :
    ∀ e ∈ hookedEvents a input own event, s.Answers e := by
  intro e he
  rcases List.mem_cons.mp he with rfl | he
  · trivial
  · rcases List.mem_append.mp he with he | he
    · obtain ⟨_, _, rfl⟩ := List.mem_map.mp he
      trivial
    · rw [List.mem_singleton.mp he]
      trivial

/-- A call that all may make, and whose statements succeed. -/
theorem hooked_way {w : Demand} {target : Option Json} {input : a.call.Result} {value : a.Value}
    {own : List (Event StoreAction.interface)} {event : WriteEvent} (hhooks : s.hooks?.isSome)
    (hover : s.isOverridden w.operation = false)
    (hallows : s.resource.allows w.operation = true) (hopen : s.resource.permissions = none)
    (htarget : w.target = .ok target) (hadmission : s.admission w = .ok a)
    (hown : (a.statements s.resource input).Way own (some (.ok value)))
    (hevent : a.event s.resource input value = some event)
    (hmode : s.resource.hookMode event.operation = .awaited) :
    (s.serve w).Way (hookedEvents a input own event)
      (some (.ok (a.respond s.resource value))) := by
  have hpermit : (s.permit w.operation target).Way [] (some (.ok ())) := by
    rw [permit_open hallows hopen]
    exact .done ()
  have hbefore : (s.before a.input (ServicePlan.hook a.call)).Way [⟨.hook a.call, .ok input⟩]
      (some (.ok input)) := by
    rw [before, if_pos hhooks]
    exact way_hook.mpr (.inr ⟨.ok input, rfl, .inr rfl⟩)
  have hafter : (s.tell (a.event s.resource input value)).Way [⟨.hook (.after event), .ok ()⟩]
      (some (.ok ())) := by
    rw [hevent, tell, after, if_pos hhooks, hmode]
    exact way_hook.mpr (.inr ⟨.ok (), rfl, .inr rfl⟩)
  have hserved : (s.serve w).Way ([] ++ hookedEvents a input own event) _ :=
    serve_admitted htarget hpermit hadmission hover (stages_succeed hbefore hown hafter)
  exact hserved

/-- Hooks that put whoever is written in Bergen. -/
def inBergen : Hooks where
  overrides := []
  run _ call := match call with
    | .beforePost payload => .done (payload.insert "city" (.str "Bergen"))
    | .beforeUpdate _ select payload => .done (select, payload.insert "city" (.str "Bergen"))
    | call => Hooks.idleRun call

/-- Serves operators to anybody, with these hooks. -/
def based (g : Registry) (r : Resource) : Serving :=
  ⟨⟨g, [("Operator", inBergen)], []⟩, r, Session.anonymous⟩

theorem based_hooks {r : Resource} (hname : r.name = "Operator") (op : Operation) :
    (based g r).hooks?.isSome ∧ (based g r).isOverridden op = false := by
  have hhooks : (based g r).hooks? = some inBergen := by
    simp [hooks?, Service.hooksOf?, based, Keyed.find?, hname]
  simp [isOverridden, hhooks, inBergen]

/-- An update that moves an operator to Bergen, who was to move to Oslo. -/
def moveEvents (r : Resource) (cmd : Sql.Command) : Events :=
  hookedEvents (.update .patch byKey city) (byKey, [("city", .str "Bergen")])
    [⟨.run cmd, .row (.count 1)⟩]
    (.updated .patch byKey (packed r [("city", .str "Bergen")]) 1)

/-- The new city of an operator is stored as the hook sets it. -/
theorem stored_iff_staff :
    ∃ g, Declarations.staff.resolve = .ok g ∧ ∃ r ∈ g.resources, r.kidColumn = some "details" ∧
      ∃ cmd, cmd.params =
          [.text (some "1"), .json (.obj [("city", .str "Bergen")])] ∧
        (∃ response, ((based g r).serve (.patch newCity)).Way (moveEvents r cmd)
          (some (.ok response))) ∧
        ∃ a, (based g r).Accepts (.patch newCity) a ∧ ∃ before input,
          (based g r).Prepared a before input ∧ before <+: effects (moveEvents r cmd) ∧
          a.Renders r input cmd ∧ ∀ k v, r.GivesOwn "details" (a.prepared input) k v →
            (Sql.Stores (a.assigned r input) cmd.params "details" k v ↔
              a.Keeps r "details" input k v) := by
  obtain ⟨g, hg, r, hr, hP⟩ := Compile.exists_resolved Declarations.staff
    (fun r => r.kidColumn = some "details" ∧ r.name = "Operator" ∧ "details" ≠ r.pk ∧
      r.allows .patch = true ∧ r.permissions = none ∧ r.hookMode .patch = .awaited ∧
      (r.checkFilter r.contracts.get byKey).toOption = some byKey ∧
      (r.contracts.update.validate city).toOption = some city ∧
      (r.updateCommand .patch byKey (packed r [("city", .str "Bergen")])).toOption.map (·.params) =
        some [.text (some "1"), .json (.obj [("city", .str "Bergen")])])
    (by decide +kernel) (by decide +kernel)
  obtain ⟨hkid, hname, hkey, hallows, hopen, hmode, hfilter, hpayload, hparams⟩ :=
    of_decide_eq_true hP
  obtain ⟨cmd, hcommand, hparams⟩ := Option.map_eq_some_iff.mp hparams
  obtain ⟨hhooks, hover⟩ := based_hooks (g := g) hname .patch
  have hx : (based g r).updateInput newCity = .ok ⟨byKey, city⟩ :=
    updateInput_ok_iff.mpr
      ⟨_, _, _, rfl, rfl, rfl, toOption_eq_some.mp hfilter, toOption_eq_some.mp hpayload⟩
  have hadmission : (based g r).admission (.patch newCity) = .ok (.update .patch byKey city) := by
    simp only [admission, hx, Except.map]
  have hstatement : ((Admission.update .patch byKey city).statements r
      (byKey, [("city", .str "Bergen")])).Way [⟨.run cmd, .row (.count 1)⟩]
        (some (.ok (1 : Int))) := by
    simp only [Admission.statements, Resource.update, toOption_eq_some.mp hcommand]
    exact Plan.way_act.mpr (.inr ⟨.row (.count 1), [], rfl, Way.done (1 : Int)⟩)
  have hway : ((based g r).serve (.patch newCity)).Way (moveEvents r cmd) _ :=
    hooked_way hhooks hover hallows hopen rfl hadmission hstatement rfl hmode
  have hrun : ⟨.store (.run cmd), .row (.count 1)⟩ ∈ moveEvents r cmd :=
    List.mem_cons_of_mem _ List.mem_cons_self
  obtain ⟨_, _, hstored⟩ := stored_iff hg hr hkid hkey (by simp [Demand.operation]) hway
    (hooked_truthful _ _ _ _)
  exact ⟨g, hg, r, hr, hkid, cmd, hparams, ⟨_, hway⟩, hstored cmd _ hrun⟩

/-- A new operator. -/
def arrival : Object := [("id", .ofInt 1)]

/-- A new operator behind the hook. -/
def settled : Object := arrival.insert "city" (.str "Bergen")

/-- A create of an operator whom the hook puts in Bergen. -/
def arrivalEvents (cmd : Sql.Command) : Events :=
  hookedEvents (.create arrival) settled [⟨.run cmd, .row (.json (.ofInt 1))⟩]
    (.created (.ofInt 1) settled)

/-- The city that the hook sets for a new operator is stored nowhere, though the hook behind the
    create is told of it. -/
theorem unpacked_field :
    ∃ g, Declarations.staff.resolve = .ok g ∧ ∃ r ∈ g.resources, r.kidColumn = some "details" ∧
      r.pk = "id" ∧ r.GivesOwn "details" settled "city" (.str "Bergen") ∧
      (∀ context, inBergen.run context (.beforePost arrival) = .done settled) ∧
      ∃ cmd, ((based g r).serve (.post (.obj arrival))).Way (arrivalEvents cmd)
          (some (.ok (.created (.obj [("id", .ofInt 1)])))) ∧
        r.Inserted settled cmd ∧ cmd.params = [.text (some "1")] ∧
        ∀ v, ¬ Sql.Stores (r.insertedValues settled) cmd.params "details" "city" v := by
  obtain ⟨g, hg, r, hr, hP⟩ := Compile.exists_resolved Declarations.staff
    (fun r => r.kidColumn = some "details" ∧ r.name = "Operator" ∧ r.pk = "id" ∧
      r.isChildField "city" = true ∧ r.allows .post = true ∧ r.permissions = none ∧
      r.hookMode .post = .awaited ∧ r.pkFromSession = false ∧
      (r.contracts.post.validate arrival).toOption = some arrival ∧
      packed r arrival = arrival ∧
      (r.insertedValues settled).map (·.column) = ["id"] ∧
      (r.insertCommand settled).toOption.map (·.params) = some [.text (some "1")])
    (by decide +kernel) (by decide +kernel)
  obtain ⟨hkid, hname, hpk, hchild, hallows, hopen, hmode, hsession, hvalid, hpacked, hcolumns,
    hparams⟩ := of_decide_eq_true hP
  obtain ⟨cmd, hcommand, hparams⟩ := Option.map_eq_some_iff.mp hparams
  have hcommand : r.insertCommand settled = .ok cmd := toOption_eq_some.mp hcommand
  obtain ⟨hhooks, hover⟩ := based_hooks (g := g) hname .post
  have hadmission : (based g r).admission (.post (.obj arrival)) = .ok (.create arrival) := by
    have hinput : (based g r).postInput (.obj arrival) = .ok arrival := by
      simp only [postInput, based, toOption_eq_some.mp hvalid, invalid, bind, Except.bind, keyed,
        hsession, hpacked]
      rfl
    simp only [admission, hinput, Except.map]
  have hstatement : ((Admission.create arrival).statements r settled).Way
      [⟨.run cmd, .row (.json (.ofInt 1))⟩] (some (.ok (.ofInt 1))) := by
    simp only [Admission.statements, Resource.create, Resource.valueOf, hcommand]
    exact Plan.way_act.mpr (.inr ⟨.row (.json (.ofInt 1)), [], rfl, Way.done (Json.ofInt 1)⟩)
  have hway : ((based g r).serve (.post (.obj arrival))).Way (arrivalEvents cmd)
      (some (.ok (.created (.obj [(r.pk, .ofInt 1)])))) :=
    hooked_way hhooks hover hallows hopen rfl hadmission hstatement rfl hmode
  rw [hpk] at hway
  refine ⟨g, hg, r, hr, hkid, hpk, ⟨hchild, .inl rfl⟩, fun _ => rfl, cmd, hway,
    Resource.inserted hcommand, hparams, ?_⟩
  -- nothing is given to the column of the document
  rintro v ⟨es, ⟨assignment, hmem, hcolumn, _⟩, _⟩
  have hnamed : assignment.column ∈ (r.insertedValues settled).map (·.column) :=
    List.mem_map_of_mem hmem
  rw [hcolumns, hcolumn] at hnamed
  exact absurd hnamed (by decide)

end Serving

end RowServe
