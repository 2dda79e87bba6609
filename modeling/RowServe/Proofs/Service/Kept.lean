import RowServe.Proofs.Declaration.Plain
import RowServe.Proofs.Plan
import RowServe.Proofs.Resource.Kept
import RowServe.Service.Serving

/-!
# Filters of requests that write

What an update and a delete ask of the store. Without hooks each statement is made of a
filter that was sent, was not empty and was accepted, so what is known about the
conditions of accepted filters holds for every row that is changed or removed.

Results:

* `update_runs`, `delete_runs`: the statements that a request leads to.
* `conditions_kept_iff`: every key of a filter is kept exactly if it is not silent.
* `lost_condition`: an accepted filter that updates the whole table.
-/

namespace RowServe

namespace StorePlan

variable {α : Type}

theorem performs_query {c : Sql.Command} {read : Reply → Except RequestError α}
    {x : StoreAction} : (query c read).Performs x ↔ x = .run c := by
  constructor
  · rintro (h | ⟨reply, h⟩)
    · exact h.symm
    · exact absurd h (Plan.performs_ofExcept _ _)
  · rintro rfl
    exact .inl rfl

theorem performs_settle {answer : Except StoreError Unit} {x : StoreAction} :
    ¬ (settle answer).Performs x := by
  cases answer <;> exact id

theorem performs_close {result : Except RequestError α} {c : Sql.Command} :
    ¬ (closeTransaction result).Performs (StoreAction.run c) := by
  unfold closeTransaction
  split
  · rintro (h | ⟨answer, h⟩)
    · exact StoreAction.noConfusion h
    · rcases (Plan.performs_bind _ _ _).mp h with h | ⟨_, _, h⟩
      · exact performs_settle h
      · exact h
  · exact id
  · rintro (h | ⟨answer, h⟩)
    · exact StoreAction.noConfusion h
    · exact h

/-- A transaction runs the statements of its steps. -/
theorem performs_inTransaction {steps : StorePlan α} {c : Sql.Command}
    (h : (inTransaction steps).Performs (StoreAction.run c)) :
    steps.Performs (StoreAction.run c) := by
  rcases h with h | ⟨answer, h⟩
  · exact StoreAction.noConfusion h
  · rcases (Plan.performs_bind _ _ _).mp h with h | ⟨_, _, h⟩
    · exact absurd h performs_settle
    · rcases (Plan.performs_bind _ _ _).mp h with h | ⟨_, _, h⟩
      · exact (Plan.performs_attempt _ _).mp h
      · exact absurd h performs_close

end StorePlan

namespace Resource

variable {r : Resource} {filter payload : Object} {cmd : Sql.Command}

/-- An update runs the one statement that is made for it. -/
theorem update_performs {op : Operation} :
    (r.update op filter payload).Performs (StoreAction.run cmd) ↔
      r.updateCommand op filter payload = .ok cmd := by
  unfold update
  rw [Plan.performs_bind]
  constructor
  · rintro (h | ⟨c, hc, h⟩)
    · exact absurd h (Plan.performs_ofExcept _ _)
    · rcases (Plan.performs_bind _ _ _).mp h with h | ⟨n, _, h⟩
      · have hrun := StorePlan.performs_query.mp ((Plan.performs_mapError _ _ _).mp h)
        rw [Plan.returns_ofExcept.mp hc, StoreAction.run.inj hrun]
      · split_ifs at h <;> exact h.elim
  · intro h
    refine .inr ⟨cmd, Plan.returns_ofExcept.mpr h, (Plan.performs_bind _ _ _).mpr (.inl ?_)⟩
    exact (Plan.performs_mapError _ _ _).mpr (StorePlan.performs_query.mpr rfl)

theorem prune_performs {keys : List Json} (h : (r.prune keys).Performs (StoreAction.run cmd)) :
    r.cleanupCommand? keys = some cmd := by
  unfold prune at h
  cases hc : r.cleanupCommand? keys with
  | none =>
    rw [hc] at h
    exact h.elim
  | some c =>
    rw [hc] at h
    rcases (Plan.performs_bind _ _ _).mp h with h | ⟨v, _, h⟩
    · rw [StoreAction.run.inj (StorePlan.performs_query.mp h)]
    · exact absurd h (Plan.performs_ofExcept _ _)

/-- A delete runs one of its two statements, or removes deleted keys from other tables. -/
theorem remove_performs {deep : Bool} (h : (r.remove filter deep).Performs (StoreAction.run cmd)) :
    (∃ t ∈ [r.templates.delete, r.templates.deleteDeep], r.deleteCommand t filter = .ok cmd) ∨
      ∃ keys, r.cleanupCommand? keys = some cmd := by
  unfold remove at h
  split_ifs at h
  · rcases (Plan.performs_bind _ _ _).mp h with h | ⟨n, _, h⟩
    · rcases (Plan.performs_bind _ _ _).mp h with h | ⟨c, hc, h⟩
      · exact absurd h (Plan.performs_ofExcept _ _)
      · refine .inl ⟨r.templates.delete, List.mem_cons_self, ?_⟩
        rw [Plan.returns_ofExcept.mp hc, StoreAction.run.inj (StorePlan.performs_query.mp h)]
    · split_ifs at h <;> exact h.elim
  · rcases (Plan.performs_bind _ _ _).mp h with h | ⟨c, hc, h⟩
    · exact absurd h (Plan.performs_ofExcept _ _)
    · rcases (Plan.performs_bind _ _ _).mp (StorePlan.performs_inTransaction h) with
        h | ⟨keys, _, h⟩
      · refine .inl ⟨r.templates.deleteDeep, by simp, ?_⟩
        rw [Plan.returns_ofExcept.mp hc, StoreAction.run.inj (StorePlan.performs_query.mp h)]
      · rcases (Plan.performs_bind _ _ _).mp h with h | ⟨_, _, h⟩
        · split_ifs at h
          · exact .inr ⟨keys, prune_performs h⟩
          · exact h.elim
        · exact h.elim

/-- Where no other table has keys of the resource, a shallow delete runs its statement. -/
theorem remove_runs (halone : r.dependents = [])
    (hcmd : r.deleteCommand r.templates.delete filter = .ok cmd) :
    (r.remove filter false).Performs (StoreAction.run cmd) := by
  rw [remove_single halone]
  refine (Plan.performs_bind _ _ _).mpr (.inl ((Plan.performs_bind _ _ _).mpr (.inr ?_)))
  exact ⟨cmd, Plan.returns_ofExcept.mpr hcmd, StorePlan.performs_query.mpr rfl⟩

end Resource

namespace Serving

variable {s : Serving}

theorem performs_store {α : Type} {p : StorePlan α} {x : StoreAction} :
    (ServicePlan.store p).Performs (ServiceAction.store x) ↔ p.Performs x := by
  refine (Plan.performs_embed (I := StoreAction.interface) (J := ServiceAction.interface) _ _
    (fun _ => Function.surjective_id) _ _).trans ?_
  constructor
  · rintro ⟨y, hy, he⟩
    rw [← ServiceAction.store.inj he]
    exact hy
  · exact fun h => ⟨x, h, rfl⟩

/-- A permission asks nothing of the store. -/
theorem permit_performs {op : Operation} {target : Option Json} {x : StoreAction} :
    ¬ (s.permit op target).Performs (ServiceAction.store x) := by
  unfold permit
  split_ifs
  · exact id
  · cases s.resource.clearance op s.session with
    | granted => exact id
    | refused e => exact id
    | depends name =>
      rintro (h | ⟨holds, h⟩)
      · exact ServiceAction.noConfusion h
      · exact absurd h (Plan.performs_ofExcept _ _)

/-- Where an operation is open to all, nothing is asked. -/
theorem permit_open {op : Operation} (hallows : s.resource.allows op = true)
    (hopen : s.resource.permissions = none) (target : Option Json) :
    s.permit op target = .done () := by
  refine permit_public hallows ?_ target
  unfold Resource.clearance
  rw [hopen]

theorem before_plain {α : Type} (plain : s.hooks? = none) (input : α) (call : ServicePlan α) :
    s.before input call = .done input := by
  unfold before
  rw [plain]
  rfl

theorem after_plain (plain : s.hooks? = none) (event : WriteEvent) :
    s.after event = .done () := by
  unfold after
  rw [plain]
  rfl

theorem orOverride_plain (plain : s.hooks? = none) (op : Operation) (select : Option Object)
    (payload : Object) (respond : Json → Response) (otherwise : ServicePlan Response) :
    s.orOverride op select payload respond otherwise = otherwise := by
  unfold orOverride isOverridden
  rw [plain]
  rfl

theorem updateRows_plain (plain : s.hooks? = none) (op : Operation) (x : UpdateInput) :
    s.updateRows op x =
      (ServicePlan.store (s.resource.update op x.select (packed s.resource x.payload))).bind
        fun count => .done (.ok (.obj [("updated", .ofInt count)])) := by
  unfold updateRows
  rw [before_plain plain]
  simp only [Plan.bind, after_plain plain]

theorem deleteRows_plain (plain : s.hooks? = none) (filter : Object) (deep : Bool) :
    s.deleteRows filter deep =
      (ServicePlan.store (s.resource.remove filter deep)).bind
        fun deletion => .done (.ok deletion.toJson) := by
  unfold deleteRows
  rw [before_plain plain]
  simp only [Plan.bind, after_plain plain]

/-! ## Requests that write -/

theorem part_ok {body entries : Object} {key : String} (h : part body key = .ok entries) :
    entries ≠ [] := by
  rintro rfl
  unfold part at h
  split at h
  · contradiction
  · contradiction
  · contradiction
  · rename_i hempty _
    exact hempty (Except.ok.inj h)
  · contradiction

theorem both_ok {α β : Type} {x : Except FieldErrors α} {y : Except FieldErrors β} {a : α} {b : β}
    (h : both x y = .ok (a, b)) : x = .ok a ∧ y = .ok b := by
  cases x <;> cases y <;> simp_all [both]

theorem under_ok {α : Type} {key : String} {x : Except FieldErrors α} {a : α}
    (h : under key x = .ok a) : x = .ok a := by
  cases x <;> simp_all [under]

theorem invalid_ok {α : Type} {x : Except FieldErrors α} {a : α} (h : invalid x = .ok a) :
    x = .ok a := by
  cases x <;> simp_all [invalid]

/-- What an update has to pass. -/
theorem updateInput_ok_iff {body : Json} {x : UpdateInput} :
    s.updateInput body = .ok x ↔
      ∃ entries select payload, body = .obj entries ∧ part entries "select" = .ok select ∧
        part entries "payload" = .ok payload ∧
        s.resource.checkFilter s.resource.contracts.get select = .ok x.select ∧
        s.resource.contracts.update.validate payload = .ok x.payload := by
  constructor
  · intro h
    cases body with
    | obj entries =>
      obtain ⟨⟨select, payload⟩, hparts, h⟩ := bind_eq_ok.mp h
      obtain ⟨⟨select', payload'⟩, hchecks, h⟩ := bind_eq_ok.mp h
      rw [← Except.ok.inj h]
      exact ⟨entries, select, payload, rfl, (both_ok hparts).1, (both_ok hparts).2,
        under_ok (both_ok hchecks).1, under_ok (both_ok hchecks).2⟩
    | _ => exact absurd h (by simp [updateInput, typeError])
  · rintro ⟨entries, select, payload, rfl, hselect, hpayload, hfilter, hvalid⟩
    simp only [updateInput, hselect, hpayload, both, under, bind, Except.bind, hfilter, hvalid]
    rfl

theorem deleteInput_ok {input filter : Object} (h : s.deleteInput input = .ok filter) :
    input ≠ [] ∧ s.resource.checkFilter s.resource.contracts.delete input = .ok filter := by
  unfold deleteInput at h
  split_ifs at h with hempty
  exact ⟨by simpa using hempty, invalid_ok h⟩

/-- An update without hooks runs one statement, once it is permitted and accepted. -/
theorem update_runs (plain : s.hooks? = none) {op : Operation} {body : Json}
    {cmd : Sql.Command} :
    (s.update op body).Performs (ServiceAction.store (.run cmd)) ↔
      (s.permit op (body.field? "select")).Returns () ∧ ∃ x, s.updateInput body = .ok x ∧
        s.resource.updateCommand op x.select (packed s.resource x.payload) = .ok cmd := by
  unfold update
  simp only [Plan.performs_bind, Plan.performs_ofExcept, Plan.returns_ofExcept, false_or,
    orOverride_plain plain, updateRows_plain plain, performs_store, Resource.update_performs]
  constructor
  · rintro (h | ⟨_, hpermit, x, hx, h | ⟨n, _, h⟩⟩)
    · exact absurd h permit_performs
    · exact ⟨hpermit, x, hx, h⟩
    · exact h.elim
  · rintro ⟨hpermit, x, hx, h⟩
    exact .inr ⟨(), hpermit, x, hx, .inl h⟩

/-- Where all may update, the statement of an accepted input is run. -/
theorem update_open (plain : s.hooks? = none) (hextends : s.resource.extendsOn = none)
    {op : Operation} (hallows : s.resource.allows op = true) (hopen : s.resource.permissions = none)
    {body : Json} {x : UpdateInput} (hx : s.updateInput body = .ok x) {cmd : Sql.Command}
    (hcmd : s.resource.updateCommand op x.select x.payload = .ok cmd) :
    (s.update op body).Performs (ServiceAction.store (.run cmd)) := by
  refine (update_runs plain).mpr ⟨?_, x, hx, ?_⟩
  · rw [permit_open hallows hopen]
    rfl
  · rw [packed_plain hextends]
    exact hcmd

/-- A delete without hooks runs a statement for the filter that was accepted, and may
    remove deleted keys from other tables. -/
theorem delete_runs (plain : s.hooks? = none) {query : Object} {body : Option Json}
    {cmd : Sql.Command} (h : (s.delete query body).Performs (ServiceAction.store (.run cmd))) :
    (∃ input filter, deleteTarget query body = .ok input ∧ s.deleteInput input = .ok filter ∧
      ∃ t ∈ [s.resource.templates.delete, s.resource.templates.deleteDeep],
        s.resource.deleteCommand t filter = .ok cmd) ∨
      ∃ keys, s.resource.cleanupCommand? keys = some cmd := by
  rcases (Plan.performs_bind _ _ _).mp h with h | ⟨input, hinput, h⟩
  · exact absurd h (Plan.performs_ofExcept _ _)
  · rcases (Plan.performs_bind _ _ _).mp h with h | ⟨_, _, h⟩
    · exact absurd h permit_performs
    · rcases (Plan.performs_bind _ _ _).mp h with h | ⟨filter, hfilter, h⟩
      · exact absurd h (Plan.performs_ofExcept _ _)
      · rw [orOverride_plain plain, deleteRows_plain plain] at h
        rcases (Plan.performs_bind _ _ _).mp h with h | ⟨n, _, h⟩
        · refine (Resource.remove_performs (performs_store.mp h)).imp_left fun hdelete => ?_
          exact ⟨input, filter, Plan.returns_ofExcept.mp hinput, Plan.returns_ofExcept.mp hfilter,
            hdelete⟩
        · exact h.elim

end Serving

/-! ## Kept conditions -/

/-- Every key of the filter has a condition on its own field. -/
def Filter.Kept (view : TableView) (filter : Object) (mode : WhereMode) (b : Sql.Binds) : Prop :=
  ∀ k v, filter.find? k = some v →
    ∃ c ∈ (WhereClause.ofFilter view filter mode b).1.conjuncts, c.About view k

/-- A statement that writes to the rows that pass a filter. The filter was accepted from
    an input, and it is not empty. -/
structure Resource.Narrowed (r : Resource) (c : Contract) (templates : List Sql.Template)
    (filter : Object) (cmd : Sql.Command) : Prop where
  accepted : ∃ input, r.checkFilter c input = .ok filter
  nonempty : filter ≠ []
  written : ∃ t ∈ templates, ∃ values : Sql.Template.Values,
    t.render (values.set .predicate (WhereClause.ofFilter r.toTableView filter .mutate []).1.sql) =
      .ok cmd.text

namespace Serving

variable {ds : Declarations} {g : Registry}

/-- The input of an accepted filter that is not empty leaves it not empty. -/
theorem nonempty_of_keys {input filter : Object} (hinput : input ≠ [])
    (hkeys : ∀ k, Keyed.has k filter = true ↔ Keyed.has k input = true) : filter ≠ [] := by
  rintro rfl
  obtain ⟨e, rest, rfl⟩ := List.exists_cons_of_ne_nil hinput
  have hfirst : Keyed.has e.1 (e :: rest) = true :=
    (Keyed.has_iff_mem_keys _ _).mpr (by simp [Keyed.keys])
  exact absurd ((hkeys e.1).mpr hfirst) (by simp [Keyed.has])

theorem update_narrowed (hg : ds.resolve = .ok g) {s : Serving}
    (hr : s.resource ∈ g.resources) (plain : s.hooks? = none) {op : Operation} {body : Json}
    {cmd : Sql.Command} (h : (s.update op body).Performs (ServiceAction.store (.run cmd))) :
    ∃ filter, s.resource.Narrowed s.resource.contracts.get [s.resource.templates.update] filter
      cmd := by
  obtain ⟨_, x, hx, hcmd⟩ := (update_runs plain).mp h
  obtain ⟨entries, select, _, _, hselect, _, hfilter, _⟩ := updateInput_ok_iff.mp hx
  have hkeys := fun k => (Compile.checkFilter_fields hg hr List.mem_cons_self hfilter k).1
  exact ⟨x.select, ⟨select, hfilter⟩, nonempty_of_keys (part_ok hselect) hkeys,
    _, List.mem_cons_self, _, (Resource.complete_ok (Resource.updateCommand_ok hcmd)).1⟩

theorem delete_narrowed (hg : ds.resolve = .ok g) {s : Serving}
    (hr : s.resource ∈ g.resources) (plain : s.hooks? = none) {query : Object}
    {body : Option Json} {cmd : Sql.Command}
    (h : (s.delete query body).Performs (ServiceAction.store (.run cmd))) :
    (∃ filter, s.resource.Narrowed s.resource.contracts.delete
        [s.resource.templates.delete, s.resource.templates.deleteDeep] filter cmd) ∨
      ∃ keys, s.resource.cleanupCommand? keys = some cmd := by
  refine (delete_runs plain h).imp_left ?_
  rintro ⟨input, filter, _, hinput, t, ht, hcmd⟩
  obtain ⟨hsent, hfilter⟩ := deleteInput_ok hinput
  have hkeys := fun k => (Compile.checkFilter_fields hg hr (by simp) hfilter k).1
  rw [Resource.deleteCommand_eq] at hcmd
  exact ⟨filter, ⟨input, hfilter⟩, nonempty_of_keys hsent hkeys, t, ht, _,
    (Resource.complete_ok hcmd).1⟩

/-- What becomes of an accepted filter. It has the keys that were sent, and each is a
    field. All of them are kept exactly if none is silent, and the condition that always
    holds is written exactly if all are. The statements of updates and deletes are made of
    such filters, and these are not empty. -/
theorem conditions_kept_iff (hg : ds.resolve = .ok g) {r : Resource} (hr : r ∈ g.resources) :
    (∀ c ∈ [r.contracts.get, r.contracts.list, r.contracts.delete], ∀ input filter,
      r.checkFilter c input = .ok filter →
        (∀ k, (Keyed.has k filter = true ↔ Keyed.has k input = true) ∧
          (Keyed.has k filter = true → ∃ f ∈ r.fields, f.name = k)) ∧
        ∀ mode b,
          (Filter.Kept r.toTableView filter mode b ↔
            ∀ k v, filter.find? k = some v → ¬ r.Silent k v) ∧
          ((WhereClause.ofFilter r.toTableView filter mode b).1.sql = "1=1" ↔
            ∀ k v, filter.find? k = some v → r.Silent k v)) ∧
      ∀ s : Serving, s.resource = r → s.hooks? = none → ∀ cmd : Sql.Command,
        (∀ op body, (s.update op body).Performs (ServiceAction.store (.run cmd)) →
          ∃ filter, r.Narrowed r.contracts.get [r.templates.update] filter cmd) ∧
        ∀ query body, (s.delete query body).Performs (ServiceAction.store (.run cmd)) →
          (∃ filter, r.Narrowed r.contracts.delete [r.templates.delete, r.templates.deleteDeep]
            filter cmd) ∨ ∃ keys, r.cleanupCommand? keys = some cmd := by
  refine ⟨fun c hc input filter h => ⟨Compile.checkFilter_fields hg hr hc h, fun mode b => ?_⟩, ?_⟩
  · refine ⟨?_, Filter.vacuous_iff r.toTableView filter mode b⟩
    constructor
    · exact fun hkept k v hv => (Filter.condition_iff hv mode b).mp (hkept k v hv)
    · exact fun hloud k v hv => (Filter.condition_iff hv mode b).mpr (hloud k v hv)
  · rintro s rfl plain cmd
    exact ⟨fun op body h => update_narrowed hg hr plain h,
      fun query body h => delete_narrowed hg hr plain h⟩

/-- Products that are found by their key. -/
def byKey : Object := [("id", .ofInt 1)]

/-- Gives products another producer. -/
def reassignment : Object := [("producer", .ofInt 2)]

/-- The body of an update. -/
def updateBody (select payload : Object) : Json :=
  .obj [("payload", .obj payload), ("select", .obj select)]

theorem conditions_kept_shop :
    ∃ g, Declarations.shop.resolve = .ok g ∧ ∃ r ∈ g.resources,
      r.checkFilter r.contracts.get byKey = .ok byKey ∧
      (Filter.Kept r.toTableView byKey .mutate [] ↔
        ∀ k v, byKey.find? k = some v → ¬ r.Silent k v) ∧
      (WhereClause.ofFilter r.toTableView byKey .mutate []).1.sql =
        "\"product\".\"id\" = $1::int" ∧
      ∀ s : Serving, s.resource = r → s.hooks? = none → ∃ cmd,
        (s.update .patch (updateBody byKey reassignment)).Performs
          (ServiceAction.store (.run cmd)) ∧
        ∃ filter, r.Narrowed r.contracts.get [r.templates.update] filter cmd := by
  obtain ⟨g, hg, r, hr, hP⟩ := Compile.exists_resolved Declarations.shop
    (fun r => (r.checkFilter r.contracts.get byKey).toOption = some byKey ∧
      (r.contracts.update.validate reassignment).toOption = some reassignment ∧
      (WhereClause.ofFilter r.toTableView byKey .mutate []).1.sql =
        "\"product\".\"id\" = $1::int" ∧
      r.extendsOn = none ∧ r.allows .patch = true ∧ r.permissions = none ∧
      (r.updateCommand .patch byKey reassignment).toOption.isSome = true)
    (by decide +kernel) (by decide +kernel)
  obtain ⟨hfilter, hpayload, hsql, hextends, hallows, hopen, hcmd⟩ := of_decide_eq_true hP
  have hok := toOption_eq_some.mp hfilter
  obtain ⟨cmd, hcmd⟩ := Option.isSome_iff_exists.mp hcmd
  obtain ⟨hfilters, hservings⟩ := conditions_kept_iff hg hr
  refine ⟨g, hg, r, hr, hok, ((hfilters _ List.mem_cons_self _ _ hok).2 .mutate []).1, hsql, ?_⟩
  intro s hs plain
  obtain ⟨hupdates, _⟩ := hservings s hs plain cmd
  subst hs
  have hx : s.updateInput (updateBody byKey reassignment) = .ok ⟨byKey, reassignment⟩ :=
    updateInput_ok_iff.mpr ⟨_, _, _, rfl, rfl, rfl, hok, toOption_eq_some.mp hpayload⟩
  have hperforms := update_open plain hextends hallows hopen hx (toOption_eq_some.mp hcmd)
  exact ⟨cmd, hperforms, hupdates .patch _ hperforms⟩

/-! ## A lost condition -/

/-- Products of a producer of which nothing is said. -/
def anyProducer : Object := [("producer", .obj [])]

/-- The filter that asks for an empty object is accepted and has no conditions: whoever may
    patch products updates all of them. -/
theorem lost_condition :
    ∃ g, Declarations.shop.resolve = .ok g ∧ ∃ r ∈ g.resources,
      r.checkFilter r.contracts.get anyProducer = .ok anyProducer ∧
      (∀ mode, (WhereClause.ofFilter r.toTableView anyProducer mode []).1.sql = "1=1") ∧
      ∃ cmd, cmd.text = "WITH rows AS (UPDATE \"product\" SET \"producer\" = $1::int " ++
          "WHERE 1=1 RETURNING 1) SELECT count(*) FROM rows" ∧
        ∀ s : Serving, s.resource = r → s.hooks? = none →
          (s.update .patch (updateBody anyProducer reassignment)).Performs
            (ServiceAction.store (.run cmd)) := by
  obtain ⟨g, hg, r, hr, hP⟩ := Compile.exists_resolved Declarations.shop
    (fun r => (r.checkFilter r.contracts.get anyProducer).toOption = some anyProducer ∧
      (r.contracts.update.validate reassignment).toOption = some reassignment ∧
      (WhereClause.ofFilter r.toTableView anyProducer .select []).1.sql = "1=1" ∧
      (WhereClause.ofFilter r.toTableView anyProducer .mutate []).1.sql = "1=1" ∧
      r.extendsOn = none ∧ r.allows .patch = true ∧ r.permissions = none ∧
      (r.updateCommand .patch anyProducer reassignment).toOption.map (·.text) =
        some ("WITH rows AS (UPDATE \"product\" SET \"producer\" = $1::int " ++
          "WHERE 1=1 RETURNING 1) SELECT count(*) FROM rows"))
    (by decide +kernel) (by decide +kernel)
  obtain ⟨hfilter, hpayload, hselect, hmutate, hextends, hallows, hopen, hcmd⟩ :=
    of_decide_eq_true hP
  have hok := toOption_eq_some.mp hfilter
  obtain ⟨cmd, hcmd, htext⟩ := Option.map_eq_some_iff.mp hcmd
  refine ⟨g, hg, r, hr, hok, fun mode => ?_, cmd, htext, ?_⟩
  · cases mode with
    | select => exact hselect
    | mutate => exact hmutate
  · rintro s rfl plain
    have hx : s.updateInput (updateBody anyProducer reassignment) =
        .ok ⟨anyProducer, reassignment⟩ :=
      updateInput_ok_iff.mpr ⟨_, _, _, rfl, rfl, rfl, hok, toOption_eq_some.mp hpayload⟩
    exact update_open plain hextends hallows hopen hx (toOption_eq_some.mp hcmd)

end Serving

end RowServe
