import RowServe.Proofs.Resource.Hidden
import RowServe.Proofs.Resource.Phrases
import RowServe.Proofs.Service.ReadOnly
import RowServe.Proofs.Template.Filled

/-!
# What the statements of a resource say

The quoted names and the placeholders of each statement, in the order in which they stand in
its text: those of the template and those of what fills its slots. They are read off the
text itself, with the names of types passed over. A brace in the name of a table or of a key
would be read as a slot of the template, so these names have to be plain.

Results:

* `templates_written`: with plain names a resource has the written templates.
* `Call.spells`, `spells_insert`: the tokens of the statements.
-/

namespace RowServe

open Sql (Bare Begins Closed Spells Token closed_literal closed_quoted literal qualified quoted
  spells_allText spells_columnList spells_literal spells_projection spells_qualified spells_quoted
  spells_setList spells_valueList)
open Sql.Template (Fills Plain Spoken Values)

/-! ## Templates -/

namespace Statement

variable {IsType : String → Prop} {values : Values}

theorem closed_inner (table : String) :
    Closed IsType (" AS \"inner\" FROM " ++ quoted table ++ " ") [.name "inner", .name table] := by
  have hinner : Closed IsType " AS \"inner\" FROM " [.name "inner"] := by
    have htext : " AS \"inner\" FROM " = " AS " ++ quoted "inner" ++ " FROM " := by decide
    rw [htext]
    exact closed_quoted (by decide) (by decide) "inner"
  exact (hinner.spells_append (spells_quoted table)).word (by decide)

theorem closed_listHead : Closed IsType listHead [.name "inner"] := by
  have hdata : Closed IsType ("SELECT json_build_object(" ++ literal "data" ++
      ", COALESCE((SELECT json_agg(page.") [] := closed_literal (by decide) (by decide) "data"
  have hpage := (hdata.spells_append (spells_quoted "inner")).word
    (w := " ORDER BY page.rn) FROM (SELECT ") (by decide)
  have htext : listHead = "SELECT json_build_object(" ++ literal "data" ++
      ", COALESCE((SELECT json_agg(page." ++ quoted "inner" ++
      " ORDER BY page.rn) FROM (SELECT " := by
    decide +kernel
  rw [htext]
  exact hpage

theorem closed_listOver :
    Closed IsType (" AS \"inner\", row_number() OVER (" ++ "ORDER BY ") [.name "inner"] := by
  have htext : " AS \"inner\", row_number() OVER (" ++ "ORDER BY " =
      " AS " ++ quoted "inner" ++ ", row_number() OVER (ORDER BY " := by decide +kernel
  rw [htext]
  exact closed_quoted (by decide) (by decide) "inner"

theorem closed_listRows (table : String) :
    Closed IsType (") page), '[]'::json), 'total_count', (SELECT count(*) FROM " ++ quoted table ++
      " ") [.name table] := by
  have hempty : Closed IsType (") page), " ++ literal "[]" ++ "::json), ") [] :=
    closed_literal (by decide) (by decide) "[]"
  have hcount := (hempty.spells_append (spells_literal "total_count")).word
    (w := ", (SELECT count(*) FROM ") (by decide)
  have htext : ") page), '[]'::json), 'total_count', (SELECT count(*) FROM " =
      ") page), " ++ literal "[]" ++ "::json), " ++ literal "total_count" ++
        ", (SELECT count(*) FROM " := by
    decide +kernel
  rw [htext]
  exact (hcount.spells_append (spells_quoted table)).word (by decide)

theorem spells_listEnd : Spells IsType ")) AS \"outer\"" [.name "outer"] := by
  have htext : ")) AS \"outer\"" = ")) AS " ++ quoted "outer" := by decide
  rw [htext]
  exact (Bare.closed (by decide)).spells_append (spells_quoted "outer")

theorem spells_returning (table pk : String) :
    Spells IsType (") RETURNING to_json(" ++ qualified table pk ++ ")") [.name table, .name pk] :=
  (((Bare.closed (by decide)).spells_append (spells_qualified table pk)).word (by decide)).spells

theorem spells_deepEnd (table pk : String) :
    Spells IsType (" RETURNING " ++ qualified table pk ++ ") SELECT json_agg(rows." ++ quoted pk ++
      ") FROM rows") [.name table, .name pk, .name pk] := by
  have hreturning : Closed IsType " RETURNING " [] := Bare.closed (by decide)
  have hrows := (hreturning.spells_append (spells_qualified table pk)).word
    (w := ") SELECT json_agg(rows.") (by decide)
  exact ((hrows.spells_append (spells_quoted pk)).word (by decide)).spells

variable {ss js ps os us vs : List Token} {table pk : String}

theorem spoken_get (hselect : Fills IsType values .select ss)
    (hjoins : Fills IsType values .joins js) (hpredicate : Fills IsType values .predicate ps) :
    Spoken IsType values (getSegments table)
      (ss ++ ([.name "inner", .name table] ++ (js ++ ps))) := by
  have hend : Spoken IsType values [.gap .predicate, .text " LIMIT 1"] ps := by
    simpa using Spoken.slot hpredicate (s := " LIMIT 1") (by decide)
      (.last (Bare.spells (by decide)))
  have hbegin : Begins (" AS \"inner\" FROM " ++ quoted table ++ " ") :=
    (Begins.append (by decide) _).append _
  exact .word (by decide) (.slot hselect hbegin (.text (closed_inner table)
    (.slot_word hjoins (by decide) hend)))

/-- What a list is ordered by, and in which direction. -/
theorem spoken_order {rest : List Sql.Segment} {s : String}
    (horderBy : Fills IsType values .orderBy os) (horderHow : Fills IsType values .orderHow [])
    (hbegin : Begins s) (h : Spoken IsType values (.text s :: rest) us) :
    Spoken IsType values (.gap .orderBy :: .text " " :: .gap .orderHow :: .text s :: rest)
      (os ++ us) := .slot_word horderBy (by decide) (.slot horderHow hbegin h)

/-- The rows that a list goes through. -/
theorem spoken_rows {rest : List Sql.Segment} {s : String}
    (hjoins : Fills IsType values .joins js) (hpredicate : Fills IsType values .predicate ps)
    (hbegin : Begins s) (h : Spoken IsType values (.text s :: rest) us) :
    Spoken IsType values (.gap .joins :: .text " WHERE " :: .gap .predicate :: .text s :: rest)
      (js ++ (ps ++ us)) := .slot_word hjoins (by decide) (.slot hpredicate hbegin h)

theorem spoken_list (hselect : Fills IsType values .select ss)
    (hjoins : Fills IsType values .joins js) (hpredicate : Fills IsType values .predicate ps)
    (horderBy : Fills IsType values .orderBy os) (horderHow : Fills IsType values .orderHow [])
    (hlimit : Fills IsType values .limit []) (hoffset : Fills IsType values .offset []) :
    Spoken IsType values (listSegments table)
      ([.name "inner"] ++ (ss ++ ([.name "inner"] ++ (os ++ ([.name table] ++ (js ++ (ps ++ (os ++
        ([.name table] ++ (js ++ (ps ++ [.name "outer"]))))))))))) := by
  have hcount := spoken_rows hjoins hpredicate (by decide) (.last spells_listEnd)
  have hpage := Spoken.slot_word hlimit (s := " OFFSET ") (by decide)
    (.slot hoffset ((Begins.append (by decide) _).append _) (.text (closed_listRows table) hcount))
  have hordered := spoken_order horderBy horderHow (s := " LIMIT ") (by decide)
    (.word (by decide) hpage)
  have hrows := spoken_rows hjoins hpredicate (s := " " ++ "ORDER BY ") (by decide)
    (.word (by decide) hordered)
  have hfrom : Closed IsType (") AS rn FROM " ++ quoted table ++ " ") [.name table] :=
    closed_quoted (by decide) (by decide) table
  have hpaged := spoken_order horderBy horderHow
    ((Begins.append (s := ") AS rn FROM ") (by decide) _).append _) (.text hfrom hrows)
  exact .text closed_listHead
    (.slot hselect (Begins.append (by decide) _) (.text closed_listOver hpaged))

theorem spoken_insert (hcols : Fills IsType values .cols us)
    (hvals : Fills IsType values .vals vs) :
    Spoken IsType values (insertSegments table pk)
      ([.name table] ++ (us ++ (vs ++ [.name table, .name pk]))) :=
  .text (closed_quoted (by decide) (by decide) table) (.slot_word hcols (by decide)
    (.slot hvals ((Begins.append (by decide) _).append _) (.last (spells_returning table pk))))

theorem spoken_update (hupdates : Fills IsType values .updates us)
    (hpredicate : Fills IsType values .predicate ps) :
    Spoken IsType values (updateSegments table) ([.name table] ++ (us ++ ps)) := by
  have hend : Spoken IsType values
      [.gap .predicate, .text " RETURNING 1) SELECT count(*) FROM rows"] ps := by
    simpa using Spoken.slot hpredicate (s := " RETURNING 1) SELECT count(*) FROM rows") (by decide)
      (.last (Bare.spells (by decide)))
  exact .text (closed_quoted (by decide) (by decide) table) (.slot_word hupdates (by decide) hend)

theorem spoken_delete (hpredicate : Fills IsType values .predicate ps) :
    Spoken IsType values (deleteSegments table) ([.name table] ++ ps) := by
  have hend : Spoken IsType values
      [.gap .predicate, .text " RETURNING 1) SELECT count(*) FROM rows"] ps := by
    simpa using Spoken.slot hpredicate (s := " RETURNING 1) SELECT count(*) FROM rows") (by decide)
      (.last (Bare.spells (by decide)))
  exact .text (closed_quoted (by decide) (by decide) table) hend

theorem spoken_deleteDeep (hpredicate : Fills IsType values .predicate ps) :
    Spoken IsType values (deleteDeepSegments table pk)
      ([.name table] ++ (ps ++ [.name table, .name pk, .name pk])) :=
  .text (closed_quoted (by decide) (by decide) table)
    (.slot hpredicate ((((Begins.append (by decide) _).append _).append _).append _)
      (.last (spells_deepEnd table pk)))

end Statement

namespace Compile

variable {ds : Declarations} {g : Registry} {r : Resource}

/-- With plain names a resource has the written templates. -/
theorem templates_written (hg : ds.resolve = .ok g) (hr : r ∈ g.resources) (htable : Plain r.table)
    (hkey : Plain r.pk) :
    r.templates = Statement.written r.toTableView r.kidColumn r.dependents := by
  obtain ⟨d, _, hd⟩ := mem_resolved hg hr
  obtain ⟨p, templates, _, ht, rfl⟩ := resource_ok_iff.mp hd
  rw [Statement.templates_plain (p.view ds d) htable hkey] at ht
  exact (Except.ok.inj ht).symm

end Compile

/-! ## Types -/

/-- The name of a type that values are cast to: that of a field, of a column of a linked
    row, or that of documents. -/
def TableView.IsType (view : TableView) (t : String) : Prop :=
  t = "jsonb" ∨ (∃ f ∈ view.fields, f.cast = some t) ∨ ∃ j ∈ view.joins, ∃ e ∈ j.casts, e.2 = t

namespace Filter

variable {view : TableView} {f : Field}

theorem columnParam_cast (f : Field) (v : Json) :
    (columnParam f v).2 = some "jsonb" ∨ (columnParam f v).2 = f.cast := by
  unfold columnParam
  cases v with
  | arr items => exact .inl rfl
  | obj entries => exact .inl rfl
  | null | bool | num | str =>
    dsimp only
    split_ifs
    · exact .inl rfl
    · exact .inr rfl

theorem column_typed (hf : f ∈ view.fields) {v : Json} {t : String}
    (h : (columnParam f v).2 = some t) : view.IsType t := by
  rcases columnParam_cast f v with hcast | hcast
  · exact .inl (Option.some.inj (h.symm.trans hcast))
  · exact .inr (.inl ⟨f, hf, hcast.symm.trans h⟩)

theorem linked_typed {j : Join} (hj : j ∈ view.joins) {key : String} {v : Json} {t : String}
    (h : (linkedParam (j.casts.find? key) v).2 = some t) : view.IsType t := by
  have hcast : (linkedParam (j.casts.find? key) v).2 = some "jsonb" ∨
      (linkedParam (j.casts.find? key) v).2 = j.casts.find? key := by
    cases v <;> first | exact .inl rfl | exact .inr rfl
  rcases hcast with hcast | hcast
  · exact .inl (Option.some.inj (h.symm.trans hcast))
  · exact .inr (.inr ⟨j, hj, (key, t), Keyed.mem_of_find? (hcast.symm.trans h), rfl⟩)

theorem document_typed {v : Json} {t : String} (h : (documentParam f v).2 = some t) :
    view.IsType t := by
  unfold documentParam at h
  split_ifs at h
  · exact .inl (Option.some.inj h).symm
  · exact .inl (Option.some.inj h).symm

/-- The values of a filter are cast to types of the view. -/
theorem entry_typed (hf : f ∈ view.fields) {v : Json} {u : Use} (hu : u ∈ entryUses view f v)
    {t : String} (ht : u.cast = some t) : view.IsType t := by
  unfold entryUses at hu
  cases hread : reading view f v with
  | none =>
    rw [hread] at hu
    exact absurd hu List.not_mem_nil
  | document x =>
    rw [hread] at hu
    rw [mem_useOf hu] at ht
    exact document_typed ht
  | contains x part =>
    rw [hread] at hu
    rw [List.mem_singleton.mp hu] at ht
    exact .inl (Option.some.inj ht).symm
  | linked x j entries =>
    rw [hread] at hu
    obtain ⟨e, _, hu⟩ := List.mem_flatMap.mp hu
    rw [mem_useOf hu] at ht
    exact linked_typed (Compile.join?_some (object_of_reading hread).2).1 ht
  | flat x =>
    rw [hread] at hu
    rw [mem_useOf hu] at ht
    exact column_typed hf ht

theorem filter_typed {filter : Object} {u : Use} (hu : u ∈ filterUses view filter) {t : String}
    (ht : u.cast = some t) : view.IsType t := by
  obtain ⟨e, he, hu⟩ := List.mem_flatMap.mp hu
  exact entry_typed (mem_entriesOf.mp he).1 hu ht

end Filter

namespace Change

open RowServe.Filter (column_typed mem_useOf)

variable {view : TableView} {payload : Object} {u : Use} {t : String}

/-- The values that an update writes are cast to types of the view. -/
theorem assignment_typed {op : Operation} {kidColumn : Option String}
    (hu : u ∈ assignmentUses view payload op kidColumn) (ht : u.cast = some t) :
    view.IsType t := by
  obtain ⟨e, he, hu⟩ := List.mem_flatMap.mp hu
  rw [mem_useOf hu] at ht
  have hcast : (assignedParam op kidColumn e.1 e.2).2 = some t := ht
  unfold assignedParam at hcast
  split_ifs at hcast
  · exact .inl (Option.some.inj hcast).symm
  · exact .inl (Option.some.inj hcast).symm
  · exact column_typed (List.mem_filter.mp (mem_changed he).1).1 hcast

/-- The values that an insert writes are cast to types of the view. -/
theorem insertion_typed {autoincrement : Option String}
    (hu : u ∈ insertionUses view autoincrement payload) (ht : u.cast = some t) :
    view.IsType t := by
  obtain ⟨e, he, hu⟩ := List.mem_flatMap.mp hu
  rw [mem_useOf hu] at ht
  exact column_typed (List.mem_filter.mp (mem_changed he).1).1 ht

/-- The placeholders of an insert are the places of its uses. -/
theorem written_insertionsAt (b : Sql.Binds) (view : TableView) (autoincrement : Option String)
    (payload : Object) :
    (insertionsAt b view autoincrement payload).flatMap Sql.Assignment.written =
      (insertionUses view autoincrement payload).map (Use.placed b) := by
  have hnext : List.flatMap Sql.Assignment.written
      (autoincrement.map fun sequence => ⟨view.pk, .next sequence⟩).toList = [] := by
    cases autoincrement <;> rfl
  unfold insertionsAt insertionUses
  rw [List.flatMap_append, hnext, List.nil_append, List.flatMap_map, List.map_flatMap]
  refine congrArg (List.flatMap · _) (funext fun e => ?_)
  unfold insertedUses insertedAt
  rw [Filter.written_useOf]
  split_ifs <;> rfl

end Change

/-- Values that are cast to types have placeholders that are cast to types. -/
theorem placed_typed {view : TableView} {us : List Use}
    (h : ∀ u ∈ us, ∀ t, u.cast = some t → view.IsType t) (b : Sql.Binds) :
    ∀ e ∈ us.map (Use.placed b), e.2.Typed view.IsType := by
  intro e he
  obtain ⟨u, hu, rfl⟩ := List.mem_map.mp he
  exact h u hu

/-! ## Statements -/

namespace Resource

variable (r : Resource)

/-- The tokens of what a read shows. -/
def shownTokens (selection : Option (List Selected)) (list : Bool) : List Token :=
  (Selection.shownTo r selection list).flatMap fun e => e.2.tokens

/-- The tokens of the joins that a read goes through. -/
def joinTokens (active : List String) : List Token :=
  (r.joins.filter fun j => active.contains j.field).flatMap Join.tokens

/-- The tokens of what a list is ordered by. -/
def orderTokens (names : List String) : List Token :=
  ((names.filterMap r.field?).filterMap r.operand?).flatMap Sql.Operand.tokens

/-- The values that an insert writes. -/
def insertedValues (payload : Object) : List Sql.Assignment :=
  Change.insertionsAt (Filter.bindAll []
    (Change.insertionUses r.toTableView r.autoincrement payload)) r.toTableView r.autoincrement
    payload

/-- The tokens of an insert. -/
def insertTokens (payload : Object) : List Token :=
  [.name r.table] ++ (((r.insertedValues payload).flatMap fun a => [.name a.column]) ++
    (((r.insertedValues payload).flatMap fun a => a.value.tokens) ++ [.name r.table, .name r.pk]))

end Resource

/-- The tokens of some conditions. -/
def WhereClause.tokens (w : WhereClause) : List Token :=
  (w.conjuncts.map (·.condition)).flatMap Sql.Condition.tokens

namespace Call

/-- The tokens of a statement with a filter. -/
def tokens (r : Resource) (call : Call) : List Token :=
  match call with
  | get _ selection =>
    r.shownTokens selection false ++ ([.name "inner", .name r.table] ++
      (r.joinTokens ((r.projected false selection).2 ++ (call.clause r).joins) ++
        (call.clause r).tokens))
  | list _ page selection =>
    let joins := r.joinTokens ((r.projected true selection).2 ++ (call.clause r).joins)
    [.name "inner"] ++ (r.shownTokens selection true ++ ([.name "inner"] ++
      (r.orderTokens page.orderBy ++ ([.name r.table] ++ (joins ++ ((call.clause r).tokens ++
        (r.orderTokens page.orderBy ++ ([.name r.table] ++ (joins ++ ((call.clause r).tokens ++
          [.name "outer"]))))))))))
  | update _ _ _ =>
    [.name r.table] ++
      ((call.assignments r).flatMap Sql.Assignment.tokens ++ (call.clause r).tokens)
  | delete deep _ =>
    [.name r.table] ++ ((call.clause r).tokens ++
      if deep then [.name r.table, .name r.pk, .name r.pk] else [])

variable {ds : Declarations} {g : Registry} {r : Resource} {call : Call} {cmd : Sql.Command}

theorem uses_typed (r : Resource) (call : Call) :
    ∀ u ∈ call.uses r, ∀ t, u.cast = some t → r.IsType t := by
  intro u hu t ht
  cases call with
  | get | list | delete => exact Filter.filter_typed hu ht
  | update op filter payload =>
    rcases List.mem_append.mp hu with hu | hu
    · exact Filter.filter_typed hu ht
    · exact Change.assignment_typed hu ht

/-- The placeholders of a statement are cast to types. -/
theorem written_typed (r : Resource) (call : Call) :
    ∀ e ∈ call.written r, e.2.Typed r.IsType := by
  rw [written_eq]
  exact placed_typed (uses_typed r call) _

theorem spells_clause (r : Resource) (call : Call) :
    Spells r.IsType (call.clause r).sql (call.clause r).tokens := by
  refine spells_allText fun c hc e he => ?_
  obtain ⟨conjunct, hconjunct, rfl⟩ := List.mem_map.mp hc
  exact written_typed r call _ (List.mem_append.mpr (.inl (List.mem_flatMap.mpr
    ⟨conjunct, hconjunct, List.mem_map_of_mem he⟩)))

theorem spells_assignments (r : Resource) (call : Call) :
    Spells r.IsType (Sql.setList (call.assignments r))
      ((call.assignments r).flatMap Sql.Assignment.tokens) := by
  refine spells_setList fun a ha p hp => ?_
  exact written_typed r call (.payload a.column, p) (List.mem_append.mpr (.inr
    (List.mem_flatMap.mpr ⟨a, ha, List.mem_map_of_mem hp⟩)))

/-- A projection is filled into the template of a read before everything else. -/
theorem render_projected (hg : ds.resolve = .ok g) (hr : r ∈ g.resources) {list : Bool}
    {selection : Option (List Selected)} {values : Values} {text : String}
    (h : (r.projected list selection).1.render values = .ok text) :
    text = Sql.Template.filledText
      (if list then r.templates.listBase else r.templates.getBase).segments
      (values.set .select (Sql.projection (Selection.shownTo r selection list))) := by
  rw [Selection.projected_eq hg hr, Sql.Template.render_withSelect] at h
  exact Sql.Template.render_eq h

/-- What the statements with a filter say. -/
theorem spells (hg : ds.resolve = .ok g) (hr : r ∈ g.resources) (htable : Plain r.table)
    (hkey : Plain r.pk) (h : call.command r = .ok cmd) :
    Spells r.IsType cmd.text (call.tokens r) := by
  have htemplates := Compile.templates_written hg hr htable hkey
  have hclause := spells_clause r call
  have hrender := (rendered h).text
  cases call with
  | get filter selection =>
    rw [render_projected hg hr hrender, htemplates]
    exact Spoken.spells (Statement.spoken_get ⟨_, rfl, spells_projection _⟩
      ⟨_, rfl, spells_joinsSql _ _⟩ ⟨_, rfl, hclause⟩)
  | list filter page selection =>
    rw [render_projected hg hr hrender, htemplates]
    have hnumber (n : Nat) : Spells r.IsType n.repr [] := (Sql.bare_repr n).spells
    have hdirection : Bare page.orderDir.sql := by cases page.orderDir <;> decide
    exact Spoken.spells (Statement.spoken_list ⟨_, rfl, spells_projection _⟩
      ⟨_, rfl, spells_joinsSql _ _⟩ ⟨_, rfl, hclause⟩ ⟨_, rfl, spells_orderBy _ _⟩
      ⟨_, rfl, hdirection.spells⟩ ⟨_, rfl, hnumber _⟩ ⟨_, rfl, hnumber _⟩)
  | update op filter payload =>
    rw [Sql.Template.render_eq hrender, template, htemplates]
    exact Spoken.spells (Statement.spoken_update
      ⟨_, rfl, spells_assignments r (.update op filter payload)⟩ ⟨_, rfl, hclause⟩)
  | delete deep filter =>
    rw [Sql.Template.render_eq hrender, template, htemplates]
    cases deep with
    | false =>
      show Spells _ _ ([.name r.table] ++ ((clause r (.delete false filter)).tokens ++ []))
      rw [List.append_nil]
      exact (Statement.spoken_delete ⟨_, rfl, hclause⟩).spells
    | true => exact Spoken.spells (Statement.spoken_deleteDeep ⟨_, rfl, hclause⟩)

end Call

/-- What an insert says. -/
theorem Resource.spells_insert {ds : Declarations} {g : Registry} {r : Resource}
    (hg : ds.resolve = .ok g) (hr : r ∈ g.resources) (htable : Plain r.table) (hkey : Plain r.pk)
    {payload : Object} {cmd : Sql.Command} (h : r.insertCommand payload = .ok cmd) :
    Spells r.IsType cmd.text (r.insertTokens payload) := by
  have hrender := (complete_ok (insertCommand_ok h)).1
  rw [Sql.Template.render_eq hrender, Compile.templates_written hg hr htable hkey]
  refine Spoken.spells (Statement.spoken_insert ⟨_, rfl, spells_columnList _⟩ ⟨_, rfl, ?_⟩)
  refine spells_valueList fun a ha p hp => ?_
  let uses := Change.insertionUses r.toTableView r.autoincrement payload
  have htyped : ∀ u ∈ uses, ∀ t, u.cast = some t → r.IsType t := fun u hu t ht =>
    Change.insertion_typed hu ht
  have hwritten := placed_typed htyped (Filter.bindAll [] uses) (.payload a.column, p)
  rw [← Change.written_insertionsAt] at hwritten
  exact hwritten (List.mem_flatMap.mpr ⟨a, ha, List.mem_map_of_mem hp⟩)

end RowServe
