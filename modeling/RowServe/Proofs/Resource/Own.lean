import RowServe.Proofs.Declaration.Plain
import RowServe.Proofs.Resource.Parts
import RowServe.Proofs.Resource.Uses
import RowServe.Request.Filter

/-!
# Values at their places

Which value a placeholder points at. A name is bound once, to the first value that comes
under it, so a placeholder has the value of its own entry as long as no entry of another
origin has the same name. Names are made by putting texts together, and two of them can
meet.

Results:

* `written_eq`: the placeholders of a statement are the places of its uses.
* `own_values_iff`: every placeholder has a value of its own entry exactly if different
  entries have different names.
* `shared_place`: an update that writes the value of its filter.
-/

namespace RowServe

open Sql (Assigned Assignment Binds Comparison Condition Operand Placeholder)

/-! ## Reading statements -/

namespace Sql

/-- The last name of an operand: the key in a document, or else the column. -/
def Operand.leaf : Operand → String
  | column _ c => c
  | key _ _ k => k

/-- The placeholder of a comparison, with the column it is compared with. -/
def Comparison.placeholders : Comparison → List (String × Placeholder)
  | isNull _ => []
  | equals x p => [(x.leaf, p)]

/-- The placeholders of a condition, with the columns they are compared with. -/
def Condition.placeholders : Condition → List (String × Placeholder)
  | compare c => c.placeholders
  | isJsonNull _ => []
  | contains x p => [(x.leaf, p)]
  | hasText x p => [(x.leaf, p)]
  | among _ _ _ cs => cs.flatMap Comparison.placeholders

/-- Is the condition about rows of another table? -/
def Condition.isAmong : Condition → Bool
  | among _ _ _ _ => true
  | _ => false

/-- The placeholder of a value that is written. -/
def Assigned.placeholders : Assigned → List Placeholder
  | null => []
  | bound p => [p]
  | merged _ p => [p]
  | extended _ p => [p]
  | next _ => []

/-- The placeholder of an assignment, with the entry of the payload it is for. -/
def Assignment.written (a : Assignment) : List (Origin × Placeholder) :=
  a.value.placeholders.map fun p => (.payload a.column, p)

end Sql

/-- The placeholders of a condition, with the entries of the filter they are for. -/
def Conjunct.written (c : Conjunct) : List (Origin × Placeholder) :=
  c.condition.placeholders.map fun (column, p) =>
    (if c.viaJoin || c.condition.isAmong then .linked c.field column else .filter c.field, p)

/-- A use with its place. -/
def Use.placed (b : Binds) (u : Use) : Origin × Placeholder := (u.origin, u.place b)

namespace Filter

theorem written_useOf (b : Binds) (origin : Origin) (name : String)
    (param : Json → Sql.Param × Option String) (v : Json) :
    (useOf origin name param v).map (Use.placed b) =
      if v.isNull then [] else [(origin, b.place name (param v).2)] := by
  unfold useOf
  split_ifs <;> rfl

theorem written_comparisons (b : Binds) (source field : String) (casts : Keyed String)
    (entries : Object) :
    (entries.flatMap fun e => (comparisonAt b source field casts e.1 e.2).placeholders).map
        (fun x => (Origin.linked field x.1, x.2)) =
      (linkedUses field casts entries).map (Use.placed b) := by
  unfold linkedUses
  induction entries with
  | nil => rfl
  | cons e entries ih =>
    rw [List.flatMap_cons, List.map_append, ih, List.flatMap_cons, List.map_append]
    congr 1
    unfold linkedUse comparisonAt
    rw [written_useOf]
    split_ifs <;> rfl

theorem written_linkedAt (b : Binds) (j : Join) (x : Operand) (mode : WhereMode)
    (entries : Object) :
    (linkedAt b j x mode entries).flatMap Conjunct.written =
      (linkedUses j.field j.casts entries).map (Use.placed b) := by
  cases mode with
  | select =>
    rw [← written_comparisons b j.aliasName, List.map_flatMap]
    unfold linkedAt
    rw [List.flatMap_map]
    rfl
  | mutate =>
    rw [← written_comparisons b j.table]
    unfold linkedAt
    cases entries with
    | nil => rfl
    | cons e entries =>
      simp [Conjunct.written, Condition.placeholders, Condition.isAmong, List.flatMap_map]

/-- The placeholders of the conditions of an entry are the places of its uses. -/
theorem written_entryAt (b : Binds) (view : TableView) (mode : WhereMode) (f : Field) (v : Json) :
    (entryAt b view mode f v).flatMap Conjunct.written =
      (entryUses view f v).map (Use.placed b) := by
  unfold entryAt entryUses
  cases reading view f v with
  | none => rfl
  | document x =>
    unfold documentUses documentConditionAt
    rw [written_useOf]
    dsimp only
    split_ifs <;> rfl
  | contains x part => rfl
  | linked x j entries => exact written_linkedAt b j x mode entries
  | flat x =>
    unfold flatUses flatAt
    rw [written_useOf]
    split_ifs <;> rfl

theorem written_conjunctsAt (b : Binds) (view : TableView) (mode : WhereMode)
    (entries : List (Field × Json)) :
    (conjunctsAt b view mode entries).flatMap Conjunct.written =
      (usesOf view entries).map (Use.placed b) := by
  unfold conjunctsAt usesOf
  rw [List.flatMap_assoc, List.map_flatMap]
  exact congrArg (entries.flatMap ·) (funext fun e => written_entryAt b view mode e.1 e.2)

end Filter

namespace Change

theorem written_assignmentsAt (b : Binds) (view : TableView) (payload : Object) (op : Operation)
    (kidColumn : Option String) :
    (assignmentsAt b view payload op kidColumn).flatMap Assignment.written =
      (assignmentUses view payload op kidColumn).map (Use.placed b) := by
  unfold assignmentsAt assignmentUses
  rw [List.flatMap_map, List.map_flatMap]
  refine congrArg (List.flatMap · _) (funext fun e => ?_)
  unfold assignedUses assignedAt
  rw [Filter.written_useOf]
  dsimp only
  split_ifs <;> rfl

end Change

/-! ## Statements with a filter -/

/-- A statement that a resource is asked for, with a filter. -/
inductive Call where
  | get (filter : Object) (selection : Option (List Selected))
  | list (filter : Object) (page : PageSpec) (selection : Option (List Selected))
  | update (op : Operation) (filter payload : Object)
  | delete (deep : Bool) (filter : Object)

namespace Call

variable (r : Resource)

/-- The statement with its parameters. -/
def command : Call → Except RequestError Sql.Command
  | get filter selection => r.getCommand filter selection
  | list filter page selection => r.listCommand filter page selection
  | update op filter payload => r.updateCommand op filter payload
  | delete deep filter =>
    r.deleteCommand (if deep then r.templates.deleteDeep else r.templates.delete) filter

/-- The conditions of the statement. -/
def clause : Call → WhereClause
  | get filter _ | list filter _ _ => (WhereClause.ofFilter r.toTableView filter .select []).1
  | update _ filter _ | delete _ filter => (WhereClause.ofFilter r.toTableView filter .mutate []).1

/-- The assignments of the statement; only an update has any. -/
def assignments : Call → List Assignment
  | update op filter payload => r.assignmentsBehind op filter payload
  | _ => []

/-- The placeholders of the statement, with the entries they are for. -/
def written (call : Call) : List (Origin × Placeholder) :=
  (call.clause r).conjuncts.flatMap Conjunct.written ++
    (call.assignments r).flatMap Assignment.written

/-- The uses of the statement, in the order in which they are bound. -/
def uses : Call → List Use
  | get filter _ | list filter _ _ | delete _ filter => Filter.filterUses r.toTableView filter
  | update op filter payload =>
    Filter.filterUses r.toTableView filter ++
      Change.assignmentUses r.toTableView payload op r.kidColumn

/-- The template of the statement; a projection gives a read its own. -/
def template : Call → Sql.Template
  | get _ selection => (r.projected false selection).1
  | list _ _ selection => (r.projected true selection).1
  | update _ _ _ => r.templates.update
  | delete deep _ => if deep then r.templates.deleteDeep else r.templates.delete

/-- The slots that the statement fills: its conditions, the joins and the page of a read, and the
    assignments of an update. -/
def slots (call : Call) : Sql.Template.Values :=
  match call with
  | get _ selection => r.readValues (r.projected false selection).2 (call.clause r)
  | list _ page selection => r.listValues (r.projected true selection).2 (call.clause r) page
  | update _ _ _ =>
    (Sql.Template.Values.empty.set .updates (Sql.setList (call.assignments r))).set .predicate
      (call.clause r).sql
  | delete _ _ => Sql.Template.Values.empty.set .predicate (call.clause r).sql

/-- The text of the statement is its template with the conditions and the assignments in their
    slots, and its parameters are what the uses bind. -/
structure Rendered (call : Call) (cmd : Sql.Command) : Prop where
  text : (call.template r).render (call.slots r) = .ok cmd.text
  params : cmd.params = (Filter.bindAll [] (call.uses r)).params

variable {r}

theorem rendered {call : Call} {cmd : Sql.Command} (h : call.command r = .ok cmd) :
    call.Rendered r cmd := by
  suffices hcomplete : Resource.complete (call.template r) (call.slots r)
      (Filter.bindAll [] (call.uses r)) = .ok cmd by
    obtain ⟨htext, hparams⟩ := Resource.complete_ok hcomplete
    exact ⟨htext, hparams⟩
  cases call with
  | get filter selection => exact (r.getCommand_eq filter selection).symm.trans h
  | list filter page selection => exact (r.listCommand_eq filter page selection).symm.trans h
  | update op filter payload => exact Resource.updateCommand_ok h
  | delete deep filter => exact (r.deleteCommand_eq _ filter).symm.trans h

/-- The placeholders of a statement are the places of its uses. -/
theorem written_eq (r : Resource) (call : Call) :
    call.written r = (call.uses r).map (Use.placed (Filter.bindAll [] (call.uses r))) := by
  have hread (filter : Object) (mode : WhereMode) :
      (WhereClause.ofFilter r.toTableView filter mode []).1.conjuncts.flatMap Conjunct.written =
        (Filter.filterUses r.toTableView filter).map
          (Use.placed (Filter.bindAll [] (Filter.filterUses r.toTableView filter))) := by
    rw [Filter.ofFilter_eq r.toTableView filter mode [] [], List.append_nil]
    exact Filter.written_conjunctsAt _ _ _ _
  cases call with
  | get filter selection => simpa [written, clause, assignments, uses] using hread filter .select
  | list filter page selection =>
    simpa [written, clause, assignments, uses] using hread filter .select
  | delete deep filter => simpa [written, clause, assignments, uses] using hread filter .mutate
  | update op filter payload =>
    have hconjuncts : (WhereClause.ofFilter r.toTableView filter .mutate []).1.conjuncts =
        Filter.conjunctsAt (Filter.bindAll [] (uses r (.update op filter payload))) r.toTableView
          .mutate (Filter.entriesOf r.toTableView filter) := by
      rw [Filter.ofFilter_eq r.toTableView filter .mutate []
        (Change.assignmentUses r.toTableView payload op r.kidColumn)]
      rfl
    unfold written clause assignments Resource.assignmentsBehind
    dsimp only
    rw [hconjuncts, Filter.written_conjunctsAt, Change.assignments_eq,
      Change.written_assignmentsAt, ← Filter.bindAll_append]
    exact List.map_append.symm

/-! ## Values -/

/-- The filter of the statement. -/
def filter : Call → Object
  | get filter _ | list filter _ _ | update _ filter _ | delete _ filter => filter

/-- The payload of the statement; only an update has one. -/
def payload : Call → Object
  | update _ _ payload => payload
  | _ => []

/-- The value of an entry of the statement. -/
def HasEntry (call : Call) : Origin → Json → Prop
  | .filter field, v => call.filter.find? field = some v
  | .linked field key, v => ∃ entries, call.filter.find? field = some (.obj entries) ∧
      (key, v) ∈ entries
  | .payload field, v => call.payload.find? field = some v

/-- The parameter is computed from the value: the document, the document in a list, or one
    of the texts of it. -/
def Computed (v : Json) (p : Sql.Param) : Prop :=
  p = .json v ∨ p = .json (Filter.asList v) ∨ p = .asText v ∨ p = .scalar v

/-- The use has the value of its own entry. -/
def Carries (call : Call) (u : Use) : Prop := ∃ v, call.HasEntry u.origin v ∧ Computed v u.value

theorem computed_column (f : Field) (v : Json) : Computed v (Filter.columnParam f v).1 := by
  have hjson : Computed v (.json v) := .inl rfl
  have hscalar : Computed v (.scalar v) := .inr (.inr (.inr rfl))
  unfold Filter.columnParam
  cases v <;> dsimp only <;> first | exact hjson | (split_ifs <;> assumption)

theorem computed_linked (cast : Option String) (v : Json) :
    Computed v (Filter.linkedParam cast v).1 := by
  cases v <;> first | exact .inl rfl | exact .inr (.inr (.inr rfl))

theorem computed_document (f : Field) (v : Json) : Computed v (Filter.documentParam f v).1 := by
  unfold Filter.documentParam
  split_ifs
  · exact .inl rfl
  · exact .inr (.inl rfl)
  · exact .inr (.inr (.inl rfl))

theorem computed_assigned (op : Operation) (kidColumn : Option String) (f : Field) (v : Json) :
    Computed v (Change.assignedParam op kidColumn f v).1 := by
  unfold Change.assignedParam
  split_ifs
  · exact .inl rfl
  · exact .inl rfl
  · exact computed_column f v

/-- The uses of an entry of the filter have the value of this entry. -/
theorem carries_entry {view : TableView} {call : Call} {f : Field} {v : Json}
    (hv : call.filter.find? f.name = some v) {u : Use} (hu : u ∈ Filter.entryUses view f v) :
    call.Carries u := by
  unfold Filter.entryUses at hu
  cases hread : Filter.reading view f v with
  | none =>
    rw [hread] at hu
    exact absurd hu List.not_mem_nil
  | document x =>
    rw [hread] at hu
    rw [Filter.mem_useOf hu]
    exact ⟨v, hv, computed_document f v⟩
  | contains x part =>
    rw [hread] at hu
    rw [List.mem_singleton.mp hu]
    refine ⟨v, hv, ?_⟩
    rcases Filter.part_of_reading hread with rfl | rfl
    · exact .inl rfl
    · exact .inr (.inl rfl)
  | linked x j entries =>
    rw [hread] at hu
    obtain ⟨hobject, hjoin⟩ := Filter.object_of_reading hread
    obtain ⟨e, he, hu⟩ := List.mem_flatMap.mp hu
    rw [Filter.mem_useOf hu]
    refine ⟨e.2, ⟨entries, ?_, he⟩, computed_linked _ e.2⟩
    rw [Filter.join?_field hjoin, hv, hobject]
  | flat x =>
    rw [hread] at hu
    rw [Filter.mem_useOf hu]
    exact ⟨v, hv, computed_column f v⟩

theorem carries_uses {r : Resource} {call : Call} {u : Use} (hu : u ∈ call.uses r) :
    call.Carries u := by
  have hfilter (hmem : u ∈ Filter.filterUses r.toTableView call.filter) : call.Carries u := by
    obtain ⟨e, he, hu⟩ := List.mem_flatMap.mp hmem
    exact carries_entry (Filter.mem_entriesOf.mp he).2 hu
  cases call with
  | get filter selection => exact hfilter hu
  | list filter page selection => exact hfilter hu
  | delete deep filter => exact hfilter hu
  | update op filter payload =>
    rcases List.mem_append.mp hu with hu | hu
    · exact hfilter hu
    · obtain ⟨e, he, hu⟩ := List.mem_flatMap.mp hu
      rw [Filter.mem_useOf hu]
      exact ⟨e.2, (Change.mem_changed he).2, computed_assigned op r.kidColumn e.1 e.2⟩

/-- The place of a use points at the value of the first use of its name. -/
theorem first_at_place {us : List Use} {u : Use} (hu : u ∈ us) :
    ∃ u', us.find? (·.name = u.name) = some u' ∧
      (Filter.bindAll [] us).params[(u.place (Filter.bindAll [] us)).position - 1]? =
        some u'.value := by
  obtain ⟨u', hfirst⟩ := Option.isSome_iff_exists.mp
    (List.find?_isSome.mpr ⟨u, hu, decide_eq_true rfl⟩ :
      (us.find? (·.name = u.name)).isSome = true)
  have hname : u'.name = u.name := by simpa using List.find?_some hfirst
  have hnamed : (us.map Use.named).find? (·.1 = u'.named.1) = some u'.named := by
    rw [← hname] at hfirst
    rw [List.find?_map]
    exact Option.map_eq_some_iff.mpr ⟨u', hfirst, rfl⟩
  refine ⟨u', hfirst, ?_⟩
  have hvalue := Binds.value?_addAll hnamed u.cast
  unfold Use.place
  rw [← hname]
  exact hvalue

theorem value_at_place {us : List Use} {u : Use} (hu : u ∈ us) :
    ∃ u' ∈ us, u'.name = u.name ∧
      (Filter.bindAll [] us).params[(u.place (Filter.bindAll [] us)).position - 1]? =
        some u'.value := by
  obtain ⟨u', hfirst, hvalue⟩ := first_at_place hu
  have hname : u'.name = u.name := by simpa using List.find?_some hfirst
  exact ⟨u', List.mem_of_find?_eq_some hfirst, hname, hvalue⟩

/-- Every placeholder of a statement has a value of its own entry, and entries of different
    origins never share a place, exactly if uses of different origins have different
    names. -/
theorem own_values_iff {r : Resource} {call : Call} {cmd : Sql.Command}
    (h : call.command r = .ok cmd) :
    ((∀ e ∈ call.written r,
        ∃ u ∈ call.uses r, u.origin = e.1 ∧ call.Carries u ∧
          cmd.params[e.2.position - 1]? = some u.value) ∧
      ∀ e ∈ call.written r, ∀ e' ∈ call.written r, e.2.position = e'.2.position → e.1 = e'.1) ↔
    ∀ u ∈ call.uses r, ∀ u' ∈ call.uses r, u.name = u'.name → u.origin = u'.origin := by
  rw [(rendered h).params, written_eq]
  have hcarries : ∀ u ∈ call.uses r, call.Carries u := fun u hu => carries_uses hu
  generalize call.uses r = us at hcarries
  have hbound : ∀ u ∈ us, u.name ∈ (Filter.bindAll [] us).names := fun u hu =>
    (Binds.mem_names_addAll [] _ _).mpr (.inr ⟨u.named, List.mem_map_of_mem hu, rfl⟩)
  constructor
  · rintro ⟨-, hshared⟩ u hu u' hu' hname
    have hplace : (u.place (Filter.bindAll [] us)).position =
        (u'.place (Filter.bindAll [] us)).position := by
      unfold Use.place Binds.place
      rw [hname]
    exact hshared _ (List.mem_map_of_mem hu) _ (List.mem_map_of_mem hu') hplace
  · intro hnames
    refine ⟨fun e he => ?_, fun e he e' he' hplace => ?_⟩
    · obtain ⟨u, hu, rfl⟩ := List.mem_map.mp he
      obtain ⟨u', hu', hname, hvalue⟩ := value_at_place hu
      exact ⟨u', hu', hnames u' hu' u hu hname, hcarries u' hu', hvalue⟩
    · obtain ⟨u, hu, rfl⟩ := List.mem_map.mp he
      obtain ⟨u', hu', rfl⟩ := List.mem_map.mp he'
      exact hnames u hu u' hu' (Binds.place_inj (hbound u hu) hplace)

/-- Products that are found by the name of their producer get another producer. -/
def reassign : Call :=
  .update .patch [("producer", .obj [("name", .str "Ann")])] [("producer", .ofInt 2)]

/-- In the shop, the name and the new producer have a place each. -/
theorem own_values_shop :
    ∃ g, Declarations.shop.resolve = .ok g ∧ ∃ r ∈ g.resources, ∃ cmd,
      reassign.command r = .ok cmd ∧
      (∀ e ∈ reassign.written r,
        ∃ u ∈ reassign.uses r, u.origin = e.1 ∧ reassign.Carries u ∧
          cmd.params[e.2.position - 1]? = some u.value) ∧
      ∀ e ∈ reassign.written r, ∀ e' ∈ reassign.written r,
        e.2.position = e'.2.position → e.1 = e'.1 := by
  obtain ⟨g, hg, r, hr, hP⟩ := Compile.exists_resolved Declarations.shop
    (fun r => (reassign.command r).toOption.isSome = true ∧
      ∀ u ∈ reassign.uses r, ∀ u' ∈ reassign.uses r, u.name = u'.name → u.origin = u'.origin)
    (by decide +kernel) (by decide +kernel)
  obtain ⟨hsome, hnames⟩ := of_decide_eq_true hP
  obtain ⟨cmd, hcmd⟩ := Option.isSome_iff_exists.mp hsome
  have hok := toOption_eq_some.mp hcmd
  exact ⟨g, hg, r, hr, cmd, hok, (own_values_iff hok).mpr hnames⟩

/-! ## Names that meet -/

/-- Products with a name, and with a link that is called like the prefix of new values. -/
def clash : Declarations :=
  [.plain "Producer" "producer"
    [.key "id", { FieldDecl.plain "name" .string (some (.simple "text")) with unique := true }],
    { ResourceDecl.plain "Product" "product"
        [.key "id", .link "u" "producer.id", .plain "name" .string (some (.simple "text"))] with
      info := { ResourceMeta.plain with
        route := some "product"
        getBy := some ["id", "u"] } }]

/-- Products that are found by the name of their producer get another name. -/
def rename : Call := .update .patch [("u", .obj [("name", .str "Ann")])] [("name", .str "Bob")]

/-- The new name of a product is bound under the name that the name of its producer has in
    the filter: both placeholders point at the value of the filter, and the new name is
    lost. -/
theorem shared_place :
    ∃ g, clash.resolve = .ok g ∧ ∃ r ∈ g.resources,
      r.checkFilter r.contracts.get rename.filter = .ok rename.filter ∧
      r.contracts.update.validate rename.payload = .ok rename.payload ∧
      rename.written r =
        [(.linked "u" "name", ⟨1, some "text"⟩), (.payload "name", ⟨1, some "text"⟩)] ∧
      ∃ cmd, rename.command r = .ok cmd ∧ cmd.params = [.text (some "Ann")] := by
  obtain ⟨g, hg, r, hr, hP⟩ := Compile.exists_resolved clash
    (fun r =>
      (r.checkFilter r.contracts.get rename.filter).toOption = some rename.filter ∧
        (r.contracts.update.validate rename.payload).toOption = some rename.payload ∧
        rename.written r =
          [(.linked "u" "name", ⟨1, some "text"⟩), (.payload "name", ⟨1, some "text"⟩)] ∧
        (rename.command r).toOption.map (·.params) = some [.text (some "Ann")])
    (by decide +kernel) (by decide +kernel)
  obtain ⟨hfilter, hpayload, hwritten, hparams⟩ := of_decide_eq_true hP
  obtain ⟨cmd, hcmd, hvalues⟩ := Option.map_eq_some_iff.mp hparams
  exact ⟨g, hg, r, hr, toOption_eq_some.mp hfilter, toOption_eq_some.mp hpayload, hwritten, cmd,
    toOption_eq_some.mp hcmd, hvalues⟩

end Call

end RowServe
