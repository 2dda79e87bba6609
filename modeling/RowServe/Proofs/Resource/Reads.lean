import RowServe.Proofs.Resource.Slots

/-!
# What reads show and join

A read without a selection is prepared when the resource is compiled, one with a selection when
it is asked for. Both fill the same template with the same values, so nothing tells whether all
that is shown by default was asked for by name.

A read goes through a join if its field is shown, or if its filter has an object for it that is
not empty. These are the joins that the statement needs: what it shows and what it compares
comes from its own table and from the tables of these joins, and it mentions each of them.

Results:

* `read_default`: a read without a selection is the read with the default selection.
* `mem_joinsOf`: the fields whose joins a read goes through.
* `mentioned_joined`, `joined_mentioned`: the tables that a read mentions.
* `joins_exact`: the joins of a statement are those that it needs.
-/

namespace RowServe

open RowServe.Filter (bindAll entryAt filterUses reading)
open Sql (Binds Command)
open Sql.Template (Puts filledText)

namespace Resource

/-! ## Reads without a selection -/

/-- All that is shown by default, as a selection. -/
def defaults (r : Resource) : List Selected := Selection.default r.toTableView r.kidColumn

variable {ds : Declarations} {g : Registry} {r : Resource}

/-- The joins of what a read shows are those of its entries, prepared or not. -/
theorem projected_joins (hg : ds.resolve = .ok g) (hr : r ∈ g.resources) (list : Bool)
    (selection : Option (List Selected)) :
    (r.projected list selection).2 =
      Selection.joins r.toTableView (Selection.entries r selection) := by
  cases selection with
  | some selection => rfl
  | none =>
    have hmade := Compile.templates_made hg hr
    cases list with
    | false => exact hmade.getJoins
    | true => exact hmade.listJoins

/-- What is prepared is what the default selection gives. -/
theorem projected_default (hg : ds.resolve = .ok g) (hr : r ∈ g.resources) (list : Bool) :
    r.projected list none = r.projected list (some r.defaults) := by
  have hentries : Selection.entries r none = Selection.entries r (some r.defaults) := rfl
  refine Prod.ext ?_ ?_
  · rw [Selection.projected_eq hg hr, Selection.projected_eq hg hr]
    unfold Selection.shownTo
    rw [hentries]
  · rw [projected_joins hg hr, projected_joins hg hr, hentries]

/-- A read without a selection is the read with the default selection: the same statement with
    the same parameters, or the same error. Both fill the open template in a single stage with
    what the default selection shows. -/
theorem read_default (hg : ds.resolve = .ok g) (hr : r ∈ g.resources) (filter : Object)
    (page : PageSpec) :
    r.getCommand filter none = r.getCommand filter (some r.defaults) ∧
      r.listCommand filter page none = r.listCommand filter page (some r.defaults) ∧
      r.read filter none = r.read filter (some r.defaults) ∧
      r.list filter page none = r.list filter page (some r.defaults) ∧
      r.getCommand filter none =
        complete (r.base false)
          ((r.readValues (Selection.joins r.toTableView r.defaults)
            (r.conditions filter [] .select)).set .select
              (Selection.sql r.toTableView r.defaults false))
          (bindAll [] (filterUses r.toTableView filter)) ∧
      r.listCommand filter page none =
        complete (r.base true)
          ((r.listValues (Selection.joins r.toTableView r.defaults)
            (r.conditions filter [] .select) page).set .select
              (Selection.sql r.toTableView r.defaults true))
          (bindAll [] (filterUses r.toTableView filter)) := by
  have hget : r.getCommand filter none = r.getCommand filter (some r.defaults) := by
    rw [getCommand_eq, getCommand_eq, projected_default hg hr]
  have hlist : r.listCommand filter page none = r.listCommand filter page (some r.defaults) := by
    rw [listCommand_eq, listCommand_eq, projected_default hg hr]
  refine ⟨hget, hlist, ?_, ?_, ?_, ?_⟩
  · unfold read
    rw [hget]
  · unfold Resource.list
    rw [hlist]
  · rw [hget, getCommand_staged hg hr]
    rfl
  · rw [hlist, listCommand_staged hg hr]
    rfl

/-- Products are listed by a part of their producer, prepared or not. -/
theorem read_default_shop :
    ∃ g, Declarations.shop.resolve = .ok g ∧ ∃ r ∈ g.resources, ∃ cmd,
      r.getCommand [("producer", .obj [("name", .str "Ann")])] none = .ok cmd ∧
        r.getCommand [("producer", .obj [("name", .str "Ann")])] (some r.defaults) = .ok cmd := by
  obtain ⟨g, hg, r, hr, hP⟩ := Compile.exists_resolved Declarations.shop
    (fun r => (r.getCommand [("producer", .obj [("name", .str "Ann")])] none).toOption.isSome ∧
      r.name = "Product")
    (by decide +kernel) (by decide +kernel)
  obtain ⟨cmd, hcmd⟩ := Option.isSome_iff_exists.mp (of_decide_eq_true hP).1
  have hget := toOption_eq_some.mp hcmd
  have hdefault := (read_default hg hr [("producer", .obj [("name", .str "Ann")])]
    ⟨10, 1, [], .asc⟩).1
  exact ⟨g, hg, r, hr, cmd, hget, hdefault.symm.trans hget⟩

end Resource

/-! ## Tables that a read mentions -/

namespace Sql

/-- The table that a value is read from. -/
def Operand.table : Operand → String
  | .column table _ => table
  | .key table _ _ => table

/-- The tables that a condition reads from. -/
def Condition.tables : Condition → List String
  | .among x table _ cs =>
    x.table :: table :: cs.map fun c => (Condition.compare c).subject.table
  | c => [c.subject.table]

/-- The table that is shown from; the test for an absent row looks there too. -/
def Shown.table : Shown → String
  | .stored x => x.table
  | .joined source _ _ => source

end Sql

theorem TableView.operand?_table {view : TableView} {f : Field} {x : Sql.Operand}
    (h : view.operand? f = some x) : x.table = view.table := by
  unfold TableView.operand? at h
  cases hstorage : f.storage with
  | virtual =>
    rw [hstorage] at h
    contradiction
  | column =>
    rw [hstorage] at h
    rw [← Option.some.inj h]
    rfl
  | extension column =>
    rw [hstorage] at h
    rw [← Option.some.inj h]
    rfl

namespace Filter

variable {b : Binds} {view : TableView} {f : Field} {v : Json} {c : Conjunct}

theorem tables_document (b : Binds) (f : Field) (x : Sql.Operand) (v : Json) :
    (documentConditionAt b f x v).tables = [x.table] := by
  unfold documentConditionAt
  dsimp only
  split_ifs <;> rfl

/-- A condition of a read looks at the row itself, or through a join that its entry has an
    object for. -/
theorem select_entryAt (hc : c ∈ entryAt b view .select f v) :
    (c.viaJoin = false ∧ c.condition.tables = [view.table]) ∨
      ∃ x j entries, reading view f v = .linked x j entries ∧ entries ≠ [] ∧
        c.viaJoin = true ∧ c.field = j.field ∧ c.condition.tables = [j.aliasName] := by
  unfold entryAt at hc
  cases hread : reading view f v with
  | none =>
    rw [hread] at hc
    exact absurd hc List.not_mem_nil
  | document x =>
    rw [hread] at hc
    have hx := TableView.operand?_table (reading_operand (.inl hread))
    rw [List.mem_singleton.mp hc]
    exact .inl ⟨rfl, by rw [tables_document, hx]⟩
  | contains x part =>
    rw [hread] at hc
    have hx := TableView.operand?_table (reading_operand (.inr (.inl ⟨part, hread⟩)))
    rw [List.mem_singleton.mp hc]
    exact .inl ⟨rfl, congrArg (fun t => [t]) hx⟩
  | linked x j entries =>
    rw [hread] at hc
    obtain ⟨e, he, rfl⟩ := List.mem_map.mp hc
    refine .inr ⟨x, j, entries, rfl, List.ne_nil_of_mem he, rfl, rfl, ?_⟩
    unfold comparisonAt
    dsimp only
    split_ifs <;> rfl
  | flat x =>
    rw [hread] at hc
    have hx := TableView.operand?_table (reading_operand (.inr (.inr (.inr hread))))
    unfold flatAt at hc
    split_ifs at hc
    · rw [List.mem_singleton.mp hc]
      exact .inl ⟨rfl, congrArg (fun t => [t]) hx⟩
    · rw [List.mem_singleton.mp hc]
      exact .inl ⟨rfl, congrArg (fun t => [t]) hx⟩

end Filter

namespace Resource

variable {ds : Declarations} {g : Registry} {r : Resource}

/-- The joins that a read goes through, in the order of the resource. -/
def joinsOf (r : Resource) (filter : Object) (selection : Option (List Selected))
    (list : Bool) : List Join :=
  r.activeJoins (r.readJoins filter [] (r.projected list selection).2)

/-- The tables that a read mentions, in what it shows and in its conditions. -/
def mentioned (r : Resource) (filter : Object) (selection : Option (List Selected))
    (list : Bool) : List String :=
  (Selection.shownTo r selection list).map (·.2.table) ++
    (r.conditions filter [] .select).conjuncts.flatMap (·.condition.tables)

/-- A read is asked for a field: the selection shows it, or the filter has an object for it
    that is not empty. -/
def Needs (r : Resource) (filter : Object) (selection : Option (List Selected))
    (name : String) : Prop :=
  name ∈ (Selection.entries r selection).map (·.name) ∨
    ∃ entries, filter.find? name = some (.obj entries) ∧ entries ≠ []

variable {filter : Object} {selection : Option (List Selected)} {list : Bool} {j : Join}

/-- What is shown needs a join if an entry is for its field. -/
theorem mem_projected_joins (hg : ds.resolve = .ok g) (hr : r ∈ g.resources)
    (hj : j ∈ r.joins) :
    j.field ∈ (r.projected list selection).2 ↔
      j.field ∈ (Selection.entries r selection).map (·.name) := by
  rw [projected_joins hg hr, List.mem_map]
  unfold Selection.joins
  rw [List.mem_filterMap]
  refine exists_congr fun s => and_congr_right fun _ => ?_
  constructor
  · intro hs
    obtain ⟨i, hi, hfield⟩ := Option.map_eq_some_iff.mp hs
    obtain ⟨f, hf, hi⟩ := Option.bind_eq_some_iff.mp hi
    rw [Compile.joinOf?_eq hg hr hf] at hi
    exact (Compile.join?_some hi).2.symm.trans hfield
  · intro hname
    obtain ⟨f, hf, _, _⟩ := Compile.join_field hg hr hj
    rw [hname, hf, Option.bind_some, Compile.joinOf?_eq hg hr hf, Compile.join?_of_mem hg hr hj]
    rfl

/-- The condition of a filter that looks through a join is in an object for its field. -/
theorem mem_condition_joins {name : String}
    (h : name ∈ (r.conditions filter [] .select).joins) :
    ∃ c ∈ (r.conditions filter [] .select).conjuncts,
      c.condition.tables = ["j_" ++ name] ∧
        ∃ entries, filter.find? name = some (.obj entries) ∧ entries ≠ [] := by
  unfold WhereClause.joins at h
  obtain ⟨c, hmem, rfl⟩ := List.mem_map.mp h
  obtain ⟨hc, hvia⟩ := List.mem_filter.mp hmem
  obtain ⟨f, _, v, hv, hentry⟩ := (Filter.mem_conjuncts r.toTableView filter .select [] c).mp hc
  rcases Filter.select_entryAt hentry with ⟨hown, _⟩ | ⟨x, j, entries, hread, hne, _, hf, ht⟩
  · rw [hown] at hvia
    contradiction
  · obtain ⟨hobj, hjoin⟩ := Filter.object_of_reading hread
    have hname : c.field = f.name := hf.trans (Filter.join?_field hjoin)
    refine ⟨c, hc, ?_, entries, ?_, hne⟩
    · rw [ht, hf]
      rfl
    · rw [hname, hv, hobj]

theorem mem_joinsOf_iff :
    j ∈ r.joinsOf filter selection list ↔
      j ∈ r.joins ∧ (j.field ∈ (r.projected list selection).2 ∨
        j.field ∈ (r.conditions filter [] .select).joins) := by
  unfold joinsOf readJoins
  rw [TableView.mem_activeJoins, List.mem_append]

/-- A read goes through the joins of the fields that it is asked for, and through no other. -/
theorem mem_joinsOf (hg : ds.resolve = .ok g) (hr : r ∈ g.resources) :
    j ∈ r.joinsOf filter selection list ↔ j ∈ r.joins ∧ r.Needs filter selection j.field := by
  rw [mem_joinsOf_iff]
  refine and_congr_right fun hj => or_congr (mem_projected_joins hg hr hj) ?_
  constructor
  · intro h
    obtain ⟨_, _, _, hentries⟩ := mem_condition_joins h
    exact hentries
  · rintro ⟨entries, hfind, hne⟩
    have hread := mem_readJoins (b := []) hg hr [] hj hfind hne
    exact (List.mem_append.mp hread).resolve_left List.not_mem_nil

/-- What a read mentions is its own table, or a table that it joins. -/
theorem mentioned_joined (hg : ds.resolve = .ok g) (hr : r ∈ g.resources) {table : String}
    (h : table ∈ r.mentioned filter selection list) :
    table = r.table ∨ table ∈ (r.joinsOf filter selection list).map Join.aliasName := by
  rcases List.mem_append.mp h with hshown | hcondition
  · obtain ⟨e, he, rfl⟩ := List.mem_map.mp hshown
    obtain ⟨s, hs, hshown⟩ := List.mem_filterMap.mp he
    cases hjoin : r.join? s.name with
    | none =>
      rw [Selection.shown?_own list hg hr hjoin] at hshown
      obtain ⟨x, hx, rfl⟩ := Option.map_eq_some_iff.mp hshown
      obtain ⟨f, _, hx⟩ := Option.bind_eq_some_iff.mp hx
      exact .inl (TableView.operand?_table hx)
    | some j =>
      obtain ⟨hj, hfield⟩ := Compile.join?_some hjoin
      rw [Selection.shown?_linked list hg hr hj hfield] at hshown
      obtain rfl := Option.some.inj hshown
      refine .inr (List.mem_map.mpr ⟨j, (mem_joinsOf hg hr).mpr ⟨hj, .inl ?_⟩, rfl⟩)
      exact List.mem_map.mpr ⟨s, hs, hfield.symm⟩
  · obtain ⟨c, hc, htable⟩ := List.mem_flatMap.mp hcondition
    obtain ⟨f, _, v, hv, hentry⟩ := (Filter.mem_conjuncts r.toTableView filter .select [] c).mp hc
    rcases Filter.select_entryAt hentry with ⟨_, ht⟩ | ⟨x, j, entries, hread, hne, _, hf, ht⟩
    · rw [ht] at htable
      exact .inl (List.mem_singleton.mp htable)
    · rw [ht] at htable
      obtain ⟨hobj, hjoin⟩ := Filter.object_of_reading hread
      obtain ⟨hj, hfield⟩ := Compile.join?_some hjoin
      refine .inr (List.mem_map.mpr ⟨j, (mem_joinsOf hg hr).mpr ⟨hj, .inr ⟨entries, ?_, hne⟩⟩,
        (List.mem_singleton.mp htable).symm⟩)
      rw [hfield, hv, hobj]

/-- Each table that a read joins is mentioned. -/
theorem joined_mentioned (hg : ds.resolve = .ok g) (hr : r ∈ g.resources)
    (h : j ∈ r.joinsOf filter selection list) :
    j.aliasName ∈ r.mentioned filter selection list := by
  obtain ⟨hj, hshown | hcondition⟩ := mem_joinsOf_iff.mp h
  · obtain ⟨s, hs, hname⟩ := List.mem_map.mp ((mem_projected_joins hg hr hj).mp hshown)
    have hentry := Selection.shown?_linked list hg hr hj hname.symm
    exact List.mem_append_left _
      (List.mem_map.mpr ⟨_, List.mem_filterMap.mpr ⟨s, hs, hentry⟩, rfl⟩)
  · obtain ⟨c, hc, ht, _⟩ := mem_condition_joins hcondition
    refine List.mem_append_right _ (List.mem_flatMap.mpr ⟨c, hc, ?_⟩)
    rw [ht]
    exact List.mem_singleton_self _

/-- The joins of a statement that reads are those that it needs. They stand in its slot for
    joins, in the order of the resource; their fields are the foreign keys with a join that are
    shown, or asked for by an object that is not empty; every table that the statement shows
    from or compares is its own or joined; and it joins none that it does not mention. -/
theorem joins_exact (hg : ds.resolve = .ok g) (hr : r ∈ g.resources) {cmd : Command}
    (h : r.Reads filter selection list cmd) :
    (∃ values, cmd.text = filledText (r.base list).segments values ∧
        (r.base list).Puts values .select
          (Sql.projection (Selection.shownTo r selection list)) ∧
        (r.base list).Puts values .joins
          (" ".intercalate ((r.joinsOf filter selection list).map Join.sql)) ∧
        (r.base list).Puts values .predicate (r.conditions filter [] .select).sql) ∧
      (∀ name, name ∈ (r.joinsOf filter selection list).map (·.field) ↔
        (∃ f j, r.field? name = some f ∧ f.isForeignKey = true ∧ r.join? name = some j) ∧
          r.Needs filter selection name) ∧
      (∀ table ∈ r.mentioned filter selection list,
        table = r.table ∨ table ∈ (r.joinsOf filter selection list).map Join.aliasName) ∧
      ∀ j ∈ r.joinsOf filter selection list,
        j.aliasName ∈ r.mentioned filter selection list := by
  refine ⟨h.filled hg hr, fun name => ?_, fun _ => mentioned_joined hg hr,
    fun _ => joined_mentioned hg hr⟩
  rw [List.mem_map]
  constructor
  · rintro ⟨j, hj, rfl⟩
    obtain ⟨hj, hneeds⟩ := (mem_joinsOf hg hr).mp hj
    obtain ⟨f, hf, hkey, _⟩ := Compile.join_field hg hr hj
    exact ⟨⟨f, j, hf, hkey, Compile.join?_of_mem hg hr hj⟩, hneeds⟩
  · rintro ⟨⟨_, j, _, _, hjoin⟩, hneeds⟩
    obtain ⟨hj, rfl⟩ := Compile.join?_some hjoin
    exact ⟨j, (mem_joinsOf hg hr).mpr ⟨hj, hneeds⟩, rfl⟩

/-- The key of a product is shown, and its producer is joined because the filter asks for the
    producer. -/
theorem joins_exact_shop :
    ∃ g, Declarations.shop.resolve = .ok g ∧ ∃ r ∈ g.resources, ∃ cmd,
      r.Reads [("producer", .obj [("name", .str "Ann")])] (some [⟨"id", none⟩]) false cmd ∧
      (r.joinsOf [("producer", .obj [("name", .str "Ann")])] (some [⟨"id", none⟩]) false).map
        (·.field) = ["producer"] ∧
      r.Needs [("producer", .obj [("name", .str "Ann")])] (some [⟨"id", none⟩]) "producer" := by
  obtain ⟨g, hg, r, hr, hP⟩ := Compile.exists_resolved Declarations.shop
    (fun r => (r.getCommand [("producer", .obj [("name", .str "Ann")])]
        (some [⟨"id", none⟩])).toOption.isSome ∧
      (r.joinsOf [("producer", .obj [("name", .str "Ann")])] (some [⟨"id", none⟩]) false).map
        (·.field) = ["producer"])
    (by decide +kernel) (by decide +kernel)
  obtain ⟨hsome, hfields⟩ := of_decide_eq_true hP
  obtain ⟨cmd, hcmd⟩ := Option.isSome_iff_exists.mp hsome
  have hread : r.Reads [("producer", .obj [("name", .str "Ann")])] (some [⟨"id", none⟩]) false
      cmd := .row (read_performs.mpr (toOption_eq_some.mp hcmd))
  have hexact := (joins_exact hg hr hread).2.1 "producer"
  rw [hfields] at hexact
  exact ⟨g, hg, r, hr, cmd, hread, hfields, (hexact.mp (List.mem_singleton_self _)).2⟩

end Resource

end RowServe
