import RowServe.Proofs.Resource.Identified
import RowServe.Proofs.Resource.Numbered

/-!
# Identifiers of served requests

The quoted names in the statements that a request leads to. A request chooses among names
that are declared: what it shows, orders by and writes is looked up first, and so are the
keys of an object that stands for a linked row. Only where a foreign key is a document
itself is the text of an object taken whole, and its keys become names of columns.

Results:

* `serve_runs`: the statements that a request without hooks leads to.
* `identifiers_iff`: when all quoted names of a statement are declared.
* `undeclared_identifier`: a column that a request makes up.
-/

namespace RowServe

open Sql (Bare Named ReadAs Token)
open Sql.Template (Plain)

/-! ## Filters as they are sent -/

/-- The filter of a request has the value under the name, as it is sent. -/
def Demand.Sends (w : Demand) (n : String) (v : Json) : Prop :=
  ∃ sent : Object, w.target = .ok (some (.obj sent)) ∧ sent.find? n = some v

/-- The filter of an admitted request; a create has none. -/
def Admission.filter : Admission → Object
  | .create _ => []
  | .read filter _ | .list filter _ _ | .update _ filter _ | .delete filter _ => filter

theorem Keyed.find?_of_erase {β : Type} {m : Keyed β} {k k' : String} {v : β}
    (h : (m.erase k).find? k' = some v) : m.find? k' = some v := by
  rw [Keyed.find?_erase] at h
  split_ifs at h
  exact h

theorem PaginationContract.find?_of_rest {query : Object} {n : String} {v : Json}
    (h : (PaginationContract.rest query).find? n = some v) : query.find? n = some v := by
  unfold rest keys at h
  simp only [List.foldl_cons, List.foldl_nil] at h
  exact Keyed.find?_of_erase (Keyed.find?_of_erase (Keyed.find?_of_erase (Keyed.find?_of_erase h)))

/-- A selection is chosen by names; what is left of the input was there before. -/
theorem Selection.take_ok {r : Resource} {input rest : Object} {selection : Option (List Selected)}
    (h : Selection.take r input = .ok (selection, rest)) :
    (∃ names, Selection.Chosen r names selection) ∧
      ∀ n v, rest.find? n = some v → input.find? n = some v := by
  unfold Selection.take at h
  split at h
  · obtain ⟨rfl, rfl⟩ := Prod.mk.inj (Except.ok.inj h)
    exact ⟨⟨none, .default⟩, fun _ _ hv => hv⟩
  · split at h
    · contradiction
    · obtain ⟨chosen, hparse, he⟩ := map_eq_ok.mp h
      obtain ⟨rfl, rfl⟩ := Prod.mk.inj he
      exact ⟨⟨_, .parsed hparse⟩, fun _ _ => Keyed.find?_of_erase⟩

namespace Serving

variable {s : Serving}

theorem part_find? {body entries : Object} {key : String} (h : part body key = .ok entries) :
    body.find? key = some (.obj entries) := by
  unfold part at h
  split at h
  · contradiction
  · contradiction
  · contradiction
  · rename_i hfind
    rw [hfind, Except.ok.inj h]
  · contradiction

/-- The filter of an accepted request has passed a contract for filters, as it was sent. -/
theorem Accepts.filtered {w : Demand} {a : Admission} (h : s.Accepts w a) :
    a.filter = [] ∨ ∃ c input, (c, decide (w.operation = .list)) ∈ s.resource.filterContracts ∧
      s.resource.checkFilter c input = .ok a.filter ∧
      ∀ n v, input.find? n = some v → w.Sends n v := by
  unfold Resource.filterContracts
  cases h with
  | @get input rest filter selection hselect hfilter =>
    have hsent := (Selection.take_ok hselect).2
    exact .inr ⟨_, rest, by simp [Demand.operation], hfilter,
      fun n v hv => ⟨input, rfl, hsent n v hv⟩⟩
  | @list input rest filter page selection _ hselect hfilter =>
    have hsent := (Selection.take_ok hselect).2
    exact .inr ⟨_, rest, by simp [Demand.operation], hfilter,
      fun n v hv => ⟨input, rfl, PaginationContract.find?_of_rest (hsent n v hv)⟩⟩
  | post _ _ => exact .inl rfl
  | @put entries select _ _ _ hselect _ hfilter _ =>
    exact .inr ⟨_, select, by simp [Demand.operation], hfilter,
      fun n v hv => ⟨select, congrArg _ (part_find? hselect), hv⟩⟩
  | @patch entries select _ _ _ hselect _ hfilter _ =>
    exact .inr ⟨_, select, by simp [Demand.operation], hfilter,
      fun n v hv => ⟨select, congrArg _ (part_find? hselect), hv⟩⟩
  | @delete query input filter body htarget _ hfilter =>
    exact .inr ⟨_, input, by simp [Demand.operation], hfilter,
      fun n v hv => ⟨input, by rw [Demand.target, htarget]; rfl, hv⟩⟩

/-! ## Statements -/

/-- Without hooks the statements of a request are those that it is admitted for. -/
theorem serve_runs (plain : s.hooks? = none) {w : Demand} {x : StoreAction} :
    (s.serve w).Performs (ServiceAction.store x) ↔
      ∃ target, w.target = .ok target ∧ (s.permit w.operation target).Returns () ∧
        ∃ a, s.admission w = .ok a ∧ (a.statements s.resource a.input).Performs x := by
  have htell (event : Option WriteEvent) : s.tell event = .done () := by
    cases event with
    | none => rfl
    | some event => exact after_plain plain event
  have hcarry (a : Admission) : (s.carryOut w.operation a).Performs (ServiceAction.store x) ↔
      (a.statements s.resource a.input).Performs x := by
    unfold carryOut stages
    rw [orOverride_plain plain, before_plain plain]
    simp only [Plan.bind, htell]
    rw [Plan.performs_bind, performs_store]
    refine or_iff_left ?_
    rintro ⟨_, _, h⟩
    exact h
  rw [serve_eq]
  simp only [Plan.performs_bind, Plan.performs_ofExcept, Plan.returns_ofExcept, false_or, hcarry]
  refine exists_congr fun target => and_congr_right fun _ => ?_
  rw [or_iff_right permit_performs]
  constructor
  · rintro ⟨_, hpermit, h⟩
    exact ⟨hpermit, h⟩
  · rintro ⟨hpermit, h⟩
    exact ⟨(), hpermit, h⟩

/-- Where all may read, the statement of an accepted filter is run. -/
theorem get_open (plain : s.hooks? = none) (hallows : s.resource.allows .get = true)
    (hopen : s.resource.permissions = none) {input filter : Object}
    (hselect : input.find? "select" = none)
    (hfilter : s.resource.checkFilter s.resource.contracts.get input = .ok filter)
    {cmd : Sql.Command} (hcmd : s.resource.getCommand filter none = .ok cmd) :
    (s.serve (.get input)).Performs (ServiceAction.store (.run cmd)) := by
  have htake : Selection.take s.resource input = .ok (none, input) := by
    unfold Selection.take
    rw [hselect]
  have hinput : s.getInput input = .ok ⟨filter, none⟩ :=
    (getInput_ok_iff s input ⟨filter, none⟩).mpr ⟨input, htake, hfilter⟩
  refine (serve_runs plain).mpr ⟨_, rfl, ?_, .read filter none, ?_, Resource.read_performs.mpr hcmd⟩
  · rw [Demand.operation, permit_open hallows hopen]
    rfl
  · simp only [admission, hinput, Except.map]

/-- A statement of an accepted request removes deleted keys, inserts a row, or has the
    filter of the request and shows what it asks for. -/
theorem Accepts.command {w : Demand} {a : Admission} (h : s.Accepts w a) {cmd : Sql.Command}
    (hrun : (a.statements s.resource a.input).Performs (StoreAction.run cmd)) :
    (∃ keys, s.resource.cleanupCommand? keys = some cmd) ∨
      (a.filter = [] ∧ ∃ payload, s.resource.insertCommand payload = .ok cmd) ∨
      ∃ call : Call, call.Asked s.resource ∧ call.filter = a.filter ∧
        call.command s.resource = .ok cmd := by
  cases h with
  | @get _ _ filter selection hselect _ =>
    have hcmd := Resource.read_performs.mp hrun
    exact .inr (.inr ⟨.get filter selection, (Selection.take_ok hselect).1, rfl, hcmd⟩)
  | @list _ _ filter page selection _ hselect _ =>
    have hcmd := Resource.list_performs.mp hrun
    exact .inr (.inr ⟨.list filter page selection, (Selection.take_ok hselect).1, rfl, hcmd⟩)
  | post _ _ => exact .inr (.inl ⟨rfl, _, Resource.create_performs.mp hrun⟩)
  | @put _ _ _ filter payload _ _ _ _ =>
    have hcmd := Resource.update_performs.mp hrun
    exact .inr (.inr ⟨.update .put filter (packed s.resource payload), trivial, rfl, hcmd⟩)
  | @patch _ _ _ filter payload _ _ _ _ =>
    have hcmd := Resource.update_performs.mp hrun
    exact .inr (.inr ⟨.update .patch filter (packed s.resource payload), trivial, rfl, hcmd⟩)
  | @delete _ _ filter _ _ _ _ =>
    rcases Resource.remove_performs hrun with ⟨t, ht, hcmd⟩ | hclean
    · simp only [List.mem_cons, List.not_mem_nil, or_false] at ht
      rcases ht with rfl | rfl
      · exact .inr (.inr ⟨.delete false filter, trivial, rfl, hcmd⟩)
      · exact .inr (.inr ⟨.delete true filter, trivial, rfl, hcmd⟩)
    · exact .inl hclean

/-! ## Quoted names -/

variable {ds : Declarations} {g : Registry}

/-- An object that an accepted request has in its filter for a foreign key has columns for
    keys that the linked resource lists, or it was taken whole. -/
theorem Accepts.linked_object (hg : ds.resolve = .ok g) (hr : s.resource ∈ g.resources)
    {w : Demand} {a : Admission} (h : s.Accepts w a) {n : String} {f : Field}
    (hf : s.resource.field? n = some f) (hkey : f.isForeignKey = true) {entries : Object}
    (hv : a.filter.find? n = some (.obj entries)) :
    (∃ j ∈ s.resource.joins, j.field = n ∧ ∃ l, g.byName? j.resource = some l ∧
        ∀ k, Keyed.has k entries = true → l.Lists (w.operation = .list) k) ∨
      (f.decl.valueType = .dict ∧ ∃ v, w.Sends n v ∧ s.resource.TakesWhole n entries v) := by
  rcases h.filtered with hnone | ⟨c, input, hc, hfilter, hsent⟩
  · rw [hnone] at hv
    contradiction
  · refine (Compile.linked_object hg hr hc hfilter hf hkey hv).imp_right ?_
    exact fun ⟨hdict, v, hv, hwhole⟩ => ⟨hdict, v, hsent n v hv, hwhole⟩

/-- All keys of objects for linked rows are declared exactly if those are that were taken
    whole. -/
theorem Accepts.keys_declared_iff (hg : ds.resolve = .ok g) (hr : s.resource ∈ g.resources)
    {w : Demand} {a : Admission} (h : s.Accepts w a) :
    (∀ j ∈ s.resource.joins, ∀ entries : Object, a.filter.find? j.field = some (.obj entries) →
        ∀ e ∈ entries, g.Identifies s.resource e.1) ↔
      ∀ j ∈ s.resource.joins, ∀ (entries : Object) v,
        a.filter.find? j.field = some (.obj entries) → w.Sends j.field v →
          s.resource.TakesWhole j.field entries v →
            ∀ k, Keyed.has k entries = true → g.Identifies s.resource k := by
  constructor
  · intro hall j hj entries v hv _ _ k hk
    obtain ⟨e, he, rfl⟩ := List.mem_map.mp ((Keyed.has_iff_mem_keys entries k).mp hk)
    exact hall j hj entries hv e he
  · intro hwhole j hj entries hv e he
    have hhas : Keyed.has e.1 entries = true :=
      (Keyed.has_iff_mem_keys entries e.1).mpr (List.mem_map_of_mem he)
    obtain ⟨f, hf, hkey, _⟩ := Compile.join_field hg hr hj
    rcases h.linked_object hg hr hf hkey hv with
      ⟨i, hi, _, l, hl, hlists⟩ | ⟨_, v, hsent, htaken⟩
    · obtain ⟨l', hl', hlisted⟩ := Compile.join_lists hg hr hi
      obtain rfl : l = l' := Option.some.inj (hl.symm.trans hl')
      exact (Compile.identifies_join hg hr hi).2.1 _ e.1 ((hlisted _ e.1).mpr (hlists e.1 hhas))
    · exact hwhole j hj entries v hv hsent htaken e.1 hhas

/-- A statement of a request without hooks has only declared names in quotes exactly if it
    removes deleted keys, or the objects for linked rows that were taken whole have no other
    keys. All other objects for linked rows have columns for keys that the linked resource
    lists for the operation. -/
theorem identifiers_iff (hg : ds.resolve = .ok g) (hr : s.resource ∈ g.resources)
    (plain : s.hooks? = none) (htable : Plain s.resource.table) (hkey : Plain s.resource.pk)
    {w : Demand} {cmd : Sql.Command}
    (h : (s.serve w).Performs (ServiceAction.store (.run cmd))) :
    ∃ a, s.Accepts w a ∧
      (∀ n f, s.resource.field? n = some f → f.isForeignKey = true →
        ∀ entries : Object, a.filter.find? n = some (.obj entries) →
          (∃ j ∈ s.resource.joins, j.field = n ∧ ∃ l, g.byName? j.resource = some l ∧
            ∀ k, Keyed.has k entries = true → l.Lists (w.operation = .list) k) ∨
          (f.decl.valueType = .dict ∧ ∃ v, w.Sends n v ∧ s.resource.TakesWhole n entries v)) ∧
      ∃ ts, ReadAs s.resource.IsType cmd.text ts ∧
        ((∀ n, .name n ∈ ts → g.Identifies s.resource n) ↔
          (∃ keys, s.resource.cleanupCommand? keys = some cmd) ∨
          ∀ j ∈ s.resource.joins, ∀ (entries : Object) v,
            a.filter.find? j.field = some (.obj entries) → w.Sends j.field v →
              s.resource.TakesWhole j.field entries v →
                ∀ k, Keyed.has k entries = true → g.Identifies s.resource k) := by
  obtain ⟨_, _, _, a, hadmission, hrun⟩ := (serve_runs plain).mp h
  have haccepts := accepts_of_admission hadmission
  refine ⟨a, haccepts, fun n f hf hfk entries hv => haccepts.linked_object hg hr hf hfk hv, ?_⟩
  by_cases hclean : ∃ keys, s.resource.cleanupCommand? keys = some cmd
  · obtain ⟨keys, hcmd⟩ := hclean
    have htext := (Resource.cleanup_some hg hr hcmd).1
    exact ⟨_, (spells_cleanup (.inl rfl) htext).readAs,
      iff_of_true (Compile.named_cleanup hg hr) (.inl ⟨keys, hcmd⟩)⟩
  · rw [or_iff_right hclean, ← haccepts.keys_declared_iff hg hr]
    rcases (haccepts.command hrun).resolve_left hclean with
      ⟨hnone, payload, hcmd⟩ | ⟨call, hasked, hfilter, hcmd⟩
    · refine ⟨_, (Resource.spells_insert hg hr htable hkey hcmd).readAs,
        iff_of_true (Compile.named_insert hg hr payload) fun j _ entries hv => ?_⟩
      rw [hnone] at hv
      contradiction
    · refine ⟨_, (Call.spells hg hr htable hkey hcmd).readAs, ?_⟩
      rw [← hfilter]
      exact Compile.named_call hg hr hasked

/-- Products are updated by the name of their producer, and the statement has no names but
    those that are declared. -/
theorem identifiers_iff_shop :
    ∃ g, Declarations.shop.resolve = .ok g ∧ ∃ r ∈ g.resources, Plain r.table ∧ Plain r.pk ∧
      ∃ cmd, ((openly g r).serve (.patch (updateBody Resource.ofAnn reassignment))).Performs
          (ServiceAction.store (.run cmd)) ∧
        ∃ ts, ReadAs r.IsType cmd.text ts ∧ ∀ n, .name n ∈ ts → g.Identifies r n := by
  obtain ⟨g, hg, r, hr, hP⟩ := Compile.exists_resolved Declarations.shop
    (fun r => Plain r.table ∧ Plain r.pk ∧
      (r.checkFilter r.contracts.get Resource.ofAnn).toOption = some Resource.ofAnn ∧
      (r.contracts.update.validate reassignment).toOption = some reassignment ∧
      r.extendsOn = none ∧ r.allows .patch = true ∧ r.permissions = none ∧
      (∀ j ∈ r.joins, j.field = "producer") ∧
      (r.updateCommand .patch Resource.ofAnn reassignment).toOption.isSome = true)
    (by decide +kernel) (by decide +kernel)
  obtain ⟨htable, hkey, hfilter, hpayload, hextends, hallows, hopen, hjoins, hcmd⟩ :=
    of_decide_eq_true hP
  obtain ⟨cmd, hcmd⟩ := Option.isSome_iff_exists.mp hcmd
  have hx : (openly g r).updateInput (updateBody Resource.ofAnn reassignment) =
      .ok ⟨Resource.ofAnn, reassignment⟩ :=
    updateInput_ok_iff.mpr
      ⟨_, _, _, rfl, rfl, rfl, toOption_eq_some.mp hfilter, toOption_eq_some.mp hpayload⟩
  have hrun := update_open (s := openly g r) rfl hextends hallows hopen hx
    (toOption_eq_some.mp hcmd)
  obtain ⟨a, _, _, ts, hts, hnames⟩ := identifiers_iff (s := openly g r) hg hr rfl htable hkey
    (w := .patch (updateBody Resource.ofAnn reassignment)) hrun
  refine ⟨g, hg, r, hr, htable, hkey, cmd, hrun, ts, hts, hnames.mpr (.inr ?_)⟩
  rintro j hj entries v _ ⟨sent, htarget, hsent⟩ hwhole
  cases hwhole with
  | @text text _ =>
    obtain rfl : Resource.ofAnn = sent :=
      Json.obj.inj (Option.some.inj (Except.ok.inj htarget))
    rw [hjoins j hj] at hsent
    exact absurd (Option.some.inj hsent) (by simp)
  | apart hnone =>
    exact absurd (hnone.symm.trans (Compile.join?_of_mem hg hr hj)) (by simp)

/-! ## A column that is made up -/

end Serving

/-- The name of a table, with those of its columns. -/
def TableDef.outline (t : TableDef) : String × List String :=
  (t.name, t.columns.map (·.name))

namespace Serving

/-- Producers whose key is a document, and products that refer to them. -/
def documents : Declarations :=
  [.plain "Producer" "producer"
    [{ FieldDecl.plain "id" .dict (some (.simple "jsonb")) with primaryKey := true },
      .plain "secret" .string (some (.simple "text"))],
    { ResourceDecl.plain "Product" "product"
        [.key "id",
          { FieldDecl.plain "producer" .dict (some (.simple "jsonb")) with
            references := some "producer.id" }] with
      info := { ResourceMeta.plain with
        route := some "product"
        getBy := some ["id", "producer"] } }]

theorem outline_documents : (TableDef.ofDecls documents).toOption.map (·.map TableDef.outline) =
    some [("producer", ["id", "secret"]), ("product", ["id", "producer"])] := by
  decide +kernel

/-- No table and no column has the name `hack`. -/
theorem hack_undeclared {g : Registry} (hg : documents.resolve = .ok g) {r : Resource}
    (haliases : r.joins.map (·.aliasName) = ["j_producer"]) : ¬ g.Identifies r "hack" := by
  have hnames := outline_documents
  rw [(Compile.resolve_ok_iff.mp hg).2.1] at hnames
  have hnames : g.tables.map TableDef.outline = _ := Option.some.inj hnames
  rw [Registry.identifies_iff, haliases]
  rintro (⟨t, ht, hname⟩ | hname)
  · have hmem : t.outline ∈ _ := hnames ▸ List.mem_map_of_mem ht
    unfold TableDef.outline at hmem
    rw [List.mem_pair, Prod.mk.injEq, Prod.mk.injEq] at hmem
    rcases hmem with ⟨htable, hcolumns⟩ | ⟨htable, hcolumns⟩
    · rw [htable, hcolumns] at hname
      exact absurd hname (by decide)
    · rw [htable, hcolumns] at hname
      exact absurd hname (by decide)
  · exact absurd hname (by decide)

/-- The text of an object, sent for the producer. -/
def madeUp : Object := [("producer", .str "\x7b\"hack\":\"x\"\x7d")]

/-- The object of the text. -/
def madeUpFilter : Object := [("producer", .obj [("hack", .str "x")])]

/-- Reads a product by a column that its producer does not have. -/
def madeUpCommand : Sql.Command :=
  ⟨"SELECT json_build_object('id', \"product\".\"id\", 'producer', " ++
    "CASE WHEN \"j_producer\".\"id\" IS NULL THEN NULL " ++
    "ELSE json_build_object('id', \"j_producer\".\"id\") END) AS \"inner\" FROM \"product\" " ++
    "LEFT JOIN \"producer\" AS \"j_producer\" " ++
    "ON \"j_producer\".\"id\" = \"product\".\"producer\" " ++
    "WHERE \"j_producer\".\"hack\" = $1 LIMIT 1", [.text (some "x")]⟩

/-- A read by the text of an object is accepted, and a key of the object is the name of a
    column in the statement, though no such column is declared. The object itself, sent in
    place of its text, is refused. -/
theorem undeclared_identifier :
    ∃ g, documents.resolve = .ok g ∧ ∃ r ∈ g.resources, Plain r.table ∧ Plain r.pk ∧
      ((openly g r).serve (.get madeUp)).Performs (ServiceAction.store (.run madeUpCommand)) ∧
      (∀ ts, ReadAs r.IsType madeUpCommand.text ts → .name "hack" ∈ ts) ∧
      ¬ g.Identifies r "hack" ∧
      ∃ errors, r.checkFilter r.contracts.get madeUpFilter = .error errors := by
  obtain ⟨g, hg, r, hr, hP⟩ := Compile.exists_resolved documents
    (fun r => Plain r.table ∧ Plain r.pk ∧ r.allows .get = true ∧ r.permissions = none ∧
      (r.checkFilter r.contracts.get madeUp).toOption = some madeUpFilter ∧
      (r.checkFilter r.contracts.get madeUpFilter).toOption = none ∧
      (r.getCommand madeUpFilter none).toOption = some madeUpCommand ∧
      .name "hack" ∈ (Call.get madeUpFilter none).tokens r ∧
      r.joins.map (·.aliasName) = ["j_producer"] ∧
      (∀ f ∈ r.fields, ∀ t ∈ f.cast, Bare t) ∧ ∀ j ∈ r.joins, ∀ e ∈ j.casts, Bare e.2)
    (by decide +kernel) (by decide +kernel)
  obtain ⟨htable, hkey, hallows, hopen, hfilter, hrefused, hcmd, hhack, haliases, hfields,
    hlinked⟩ := of_decide_eq_true hP
  have hok : (Call.get madeUpFilter none).command r = .ok madeUpCommand :=
    toOption_eq_some.mp hcmd
  have hrun : ((openly g r).serve (.get madeUp)).Performs
      (ServiceAction.store (.run madeUpCommand)) :=
    get_open rfl hallows hopen rfl (toOption_eq_some.mp hfilter) hok
  have htypes : ∀ t, r.IsType t → Bare t := by
    rintro t (rfl | ⟨f, hf, ht⟩ | ⟨j, hj, e, he, rfl⟩)
    · decide
    · exact hfields f hf t ht
    · exact hlinked j hj e he
  have hspells : ReadAs r.IsType madeUpCommand.text ((Call.get madeUpFilter none).tokens r) :=
    (Call.spells hg hr htable hkey hok).readAs
  refine ⟨g, hg, r, hr, htable, hkey, hrun, fun ts hts => ?_, hack_undeclared hg haliases, ?_⟩
  · rw [hspells.2 htypes ts hts.1]
    exact hhack
  · cases hcheck : r.checkFilter r.contracts.get madeUpFilter with
    | error errors => exact ⟨errors, rfl⟩
    | ok filter =>
      rw [hcheck] at hrefused
      exact absurd hrefused (Option.some_ne_none filter)

end Serving

end RowServe
