import RowServe.Proofs.Resource.SameRows
import RowServe.Proofs.Resource.Spelling
import RowServe.Proofs.Template.Slots

/-!
# Slots of statements

Whatever its table is called, a statement has the slots that requests fill: each of them stands
behind a literal of the source that ends with a blank or a parenthesis. What a read shows is
filled in before all else, and might as well be filled in with the rest.

Results:

* `Made.readable_get`, `Made.readable_list`: the slots of both kinds of reads.
* `getCommand_staged`, `listCommand_staged`: reads as a single filling of the open template.
* `Made.list_clauses`: the order of a list in its text, twice.
* `Made.insert_lists`: the columns and the values of an insert in its text.
* `Reads.filled`, `insert_filled`, `update_filled`: what stands in the slots of a statement.
-/

namespace RowServe

open RowServe.Filter (bindAll filterUses)
open Sql (Command Template quoted)
open Sql.Template (EndsPlain Puts Values filledText filled_behind filled_literal filled_next
  has_of_parse shownChars)
open Sql.Template.Segment (filled)

/-! ## Slots of the templates -/

/-- The template has the slots that every read fills. -/
structure Statement.Readable (t : Template) : Prop where
  select : t.has .select = true
  joins : t.has .joins = true
  predicate : t.has .predicate = true

namespace Statement

theorem endsPlain_from (front table : String) : EndsPlain (front ++ quoted table ++ " ") :=
  .append _ ⟨[], ' ', rfl, rfl⟩

theorem endsPlain_where : EndsPlain " WHERE " := ⟨" WHERE".toList, ' ', by decide, rfl⟩

variable {view : TableView} {hidden : Option String} {dependents : List Dependent} {t : Templates}

theorem Made.has_cols (h : Made t view hidden dependents) : t.insert.has .cols = true := by
  have hparse := h.insert
  rw [insertSource_eq] at hparse
  have hinto : EndsPlain ("INSERT INTO " ++ quoted view.table ++ " (") :=
    .append _ ⟨[' '], '(', rfl, rfl⟩
  exact has_of_parse hparse ⟨[], (insertSegments view.table view.pk).drop 2, rfl⟩ hinto

theorem Made.has_updates (h : Made t view hidden dependents) :
    t.update.has .updates = true := by
  have hparse := h.update
  rw [updateSource_eq] at hparse
  have hset : EndsPlain ("WITH rows AS (UPDATE " ++ quoted view.table ++ " SET ") :=
    .append _ ⟨" SET".toList, ' ', by decide, rfl⟩
  exact has_of_parse hparse ⟨[], (updateSegments view.table).drop 2, rfl⟩ hset

theorem Made.readable_get (h : Made t view hidden dependents) : Readable t.getBase := by
  have hparse := h.getBase
  rw [getSource_eq] at hparse
  have hselect : EndsPlain "SELECT " := ⟨"SELECT".toList, ' ', by decide, rfl⟩
  let segments := getSegments view.table
  exact
    { select := has_of_parse hparse ⟨[], segments.drop 2, rfl⟩ hselect
      joins := has_of_parse hparse ⟨segments.take 2, segments.drop 4, rfl⟩ (endsPlain_from _ _)
      predicate := has_of_parse hparse ⟨segments.take 4, segments.drop 6, rfl⟩ endsPlain_where }

theorem Made.readable_list (h : Made t view hidden dependents) : Readable t.listBase := by
  have hparse := h.listBase
  rw [listSource_eq] at hparse
  have hselect : EndsPlain listHead := .append _ ⟨"FROM (SELECT".toList, ' ', by decide, rfl⟩
  let segments := listSegments view.table
  exact
    { select := has_of_parse hparse ⟨[], segments.drop 2, rfl⟩ hselect
      joins := has_of_parse hparse ⟨segments.take 6, segments.drop 8, rfl⟩ (endsPlain_from _ _)
      predicate := has_of_parse hparse ⟨segments.take 8, segments.drop 10, rfl⟩ endsPlain_where }

/-! ## The text around the slots -/

/-- What is filled in for the order, as a clause. -/
def clause (values : Values) : String :=
  "ORDER BY " ++ (filled values (.gap .orderBy) ++ (" " ++ filled values (.gap .orderHow)))

/-- What stands behind the first clause, up to the second one. -/
theorem shownChars_rows (table : String) (rest : List Sql.Segment) :
    shownChars (.text (") AS rn FROM " ++ quoted table ++ " ") :: .gap .joins :: .text " WHERE " ::
        .gap .predicate :: rest) =
      ") AS rn FROM ".toList ++ (((quoted table).toList ++ (" ".toList ++
        shownChars [.gap .joins, .text " WHERE ", .gap .predicate])) ++ shownChars rest) := by
  unfold shownChars
  simp only [List.flatMap_cons, List.flatMap_nil, Sql.Template.Segment.display,
    String.toList_append, List.append_assoc, List.append_nil]

/-- The clause stands in both its places, whatever the table is called. -/
theorem Made.list_clauses (h : Made t view hidden dependents) (values : Values) :
    ∃ middle back, filledText t.listBase.segments values =
      listHead ++ filled values (.gap .select) ++ " AS \"inner\", row_number() OVER (" ++
        clause values ++ ") AS rn FROM " ++ middle ++ " " ++ clause values ++
        " LIMIT " ++ filled values (.gap .limit) ++ " OFFSET " ++ filled values (.gap .offset) ++
        back := by
  have hparse := h.listBase
  rw [listSource_eq] at hparse
  have hread := Sql.Template.read_of_parse hparse
  unfold listSegments at hread
  obtain ⟨cs, hquoted⟩ := Sql.quoted_cons view.table
  obtain ⟨_, _, hread, hselect⟩ := filled_next values (by decide) hread
  obtain ⟨_, _, hread, hover⟩ := filled_next values (by decide) hread
  obtain ⟨_, _, hread, hhow⟩ := filled_next values (by decide) hread
  rw [shownChars_rows] at hread
  obtain ⟨middle, _, _, hread, hrows⟩ := filled_behind values (by decide) (by decide)
    (by decide) (by rw [hquoted]; rfl) hread
  obtain ⟨_, _, hread, hrowsHow⟩ := filled_next values (by decide) hread
  obtain ⟨_, _, hread, hlimit⟩ := filled_next values (by decide) hread
  obtain ⟨_, others, _, hoffset⟩ := filled_next values (by decide) hread
  refine ⟨middle, filledText others values, ?_⟩
  rw [hselect, hover, hhow, hrows, hrowsHow, hlimit, hoffset]
  unfold clause
  simp only [String.append_assoc, -String.reduceAppend]

theorem shownChars_into (table : String) (rest : List Sql.Segment) :
    shownChars (.text ("INSERT INTO " ++ quoted table ++ " (") :: rest) =
      "INSERT INTO ".toList ++ ((quoted table).toList ++ shownChars (.text " (" :: rest)) := by
  unfold shownChars
  simp only [List.flatMap_cons, Sql.Template.Segment.display, String.toList_append,
    List.append_assoc]

/-- The columns and the values stand in their places, whatever the table is called. -/
theorem Made.insert_lists (h : Made t view hidden dependents) (values : Values) :
    ∃ into back, filledText t.insert.segments values =
      "INSERT INTO " ++ into ++ " (" ++ filled values (.gap .cols) ++ ") VALUES (" ++
        filled values (.gap .vals) ++ ") RETURNING to_json(" ++ back := by
  have hparse := h.insert
  rw [insertSource_eq] at hparse
  have hread := Sql.Template.read_of_parse hparse
  obtain ⟨cs, hquoted⟩ := Sql.quoted_cons view.table
  unfold insertSegments at hread
  rw [shownChars_into] at hread
  obtain ⟨into, _, _, hread, hinto⟩ := filled_behind values (by decide) (by decide)
    (by decide) (by rw [hquoted]; rfl) hread
  obtain ⟨_, others, hread, hvalues⟩ := filled_next values (by decide) hread
  have hlast : shownChars
      [.text (") RETURNING to_json(" ++ Sql.qualified view.table view.pk ++ ")")] =
        ") RETURNING to_json(".toList ++
          ((quoted view.table).toList ++ ("." ++ quoted view.pk ++ ")").toList) := by
    unfold shownChars Sql.qualified
    simp [Sql.Template.Segment.display]
  rw [hlast] at hread
  obtain ⟨back, hback⟩ := filled_literal values (by decide)
    (by rw [hquoted, List.cons_append, List.head?_cons]; decide) hread
  refine ⟨into, back, ?_⟩
  rw [hinto, hvalues, hback]
  simp only [String.append_assoc, -String.reduceAppend]

end Statement

namespace Compile

variable {ds : Declarations} {g : Registry} {r : Resource}

/-- What the templates of a compiled resource are read from. -/
theorem templates_made (hg : ds.resolve = .ok g) (hr : r ∈ g.resources) :
    Statement.Made r.templates r.toTableView r.kidColumn r.dependents := by
  obtain ⟨d, _, hd⟩ := mem_resolved hg hr
  obtain ⟨p, templates, _, htemplates, rfl⟩ := resource_ok_iff.mp hd
  exact Statement.templates_ok_iff.mp htemplates

end Compile

namespace Resource

/-! ## Reads -/

/-- The template of a read that leaves open what is shown. -/
def base (r : Resource) (list : Bool) : Template :=
  if list then r.templates.listBase else r.templates.getBase

/-- A statement that reads one row, or a page of them. -/
inductive Reads (r : Resource) (filter : Object) (selection : Option (List Selected)) :
    Bool → Command → Prop where
  | row {cmd : Command} (h : (r.read filter selection).Performs (StoreAction.run cmd)) :
      Reads r filter selection false cmd
  | page {cmd : Command} (page : PageSpec)
      (h : (r.list filter page selection).Performs (StoreAction.run cmd)) :
      Reads r filter selection true cmd

/-- What a read shows might as well be filled in with the rest. -/
theorem complete_withSelect (t : Template) (select : String) (values : Values) (b : Sql.Binds) :
    complete (Statement.withSelect t select) values b =
      complete t (values.set .select select) b := by
  unfold complete
  rw [Sql.Template.render_withSelect]

variable {ds : Declarations} {g : Registry} {r : Resource} {filter : Object}
  {selection : Option (List Selected)} {list : Bool} {cmd : Command}

theorem readable (hg : ds.resolve = .ok g) (hr : r ∈ g.resources) (list : Bool) :
    Statement.Readable (r.base list) := by
  have hmade := Compile.templates_made hg hr
  cases list with
  | false => exact hmade.readable_get
  | true => exact hmade.readable_list

theorem getCommand_staged (hg : ds.resolve = .ok g) (hr : r ∈ g.resources) (filter : Object)
    (selection : Option (List Selected)) :
    r.getCommand filter selection =
      complete (r.base false)
        ((r.readValues (r.projected false selection).2 (r.conditions filter [] .select)).set
          .select (Sql.projection (Selection.shownTo r selection false)))
        (bindAll [] (filterUses r.toTableView filter)) := by
  rw [getCommand_eq, Selection.projected_eq hg hr, complete_withSelect]
  rfl

theorem listCommand_staged (hg : ds.resolve = .ok g) (hr : r ∈ g.resources) (filter : Object)
    (page : PageSpec) (selection : Option (List Selected)) :
    r.listCommand filter page selection =
      complete (r.base true)
        ((r.listValues (r.projected true selection).2 (r.conditions filter [] .select) page).set
          .select (Sql.projection (Selection.shownTo r selection true)))
        (bindAll [] (filterUses r.toTableView filter)) := by
  rw [listCommand_eq, Selection.projected_eq hg hr, complete_withSelect]
  rfl

/-- What stands in the slots that every read fills. -/
theorem Reads.filled (hg : ds.resolve = .ok g) (hr : r ∈ g.resources)
    (h : r.Reads filter selection list cmd) :
    ∃ values, cmd.text = filledText (r.base list).segments values ∧
      (r.base list).Puts values .select
        (Sql.projection (Selection.shownTo r selection list)) ∧
      (r.base list).Puts values .joins
        (r.joinsSql (r.readJoins filter [] (r.projected list selection).2)) ∧
      (r.base list).Puts values .predicate (r.conditions filter [] .select).sql := by
  have hslots := readable hg hr list
  cases h with
  | row h =>
    have hcommand := (getCommand_staged hg hr filter selection).symm.trans (read_performs.mp h)
    refine ⟨_, Sql.Template.render_eq (complete_ok hcommand).1, ⟨hslots.select, rfl⟩,
      ⟨hslots.joins, rfl⟩, ⟨hslots.predicate, rfl⟩⟩
  | page page h =>
    have hcommand :=
      (listCommand_staged hg hr filter page selection).symm.trans (list_performs.mp h)
    refine ⟨_, Sql.Template.render_eq (complete_ok hcommand).1, ⟨hslots.select, rfl⟩,
      ⟨hslots.joins, rfl⟩, ⟨hslots.predicate, rfl⟩⟩

/-! ## Writes -/

/-- What stands between the parentheses behind the table of an insert. -/
theorem insert_filled (hg : ds.resolve = .ok g) (hr : r ∈ g.resources) {payload : Object}
    (h : r.insertCommand payload = .ok cmd) :
    ∃ values, cmd.text = filledText r.templates.insert.segments values ∧
      r.templates.insert.Puts values .cols (Sql.columnList (r.insertedValues payload)) :=
  ⟨_, Sql.Template.render_eq (complete_ok (insertCommand_ok h)).1,
    (Compile.templates_made hg hr).has_cols, rfl⟩

/-- The columns and the values of an insert in its text. -/
theorem insertCommand_text {d : ResourceDecl} (hr : Compile.resource ds d = .ok r)
    {payload : Object} (h : r.insertCommand payload = .ok cmd) :
    ∃ into back, cmd.text =
      "INSERT INTO " ++ into ++ " (" ++ Sql.columnList (r.insertedValues payload) ++ ") VALUES (" ++
        Sql.valueList (r.insertedValues payload) ++ ") RETURNING to_json(" ++ back := by
  obtain ⟨p, templates, _, htemplates, rfl⟩ := Compile.resource_ok_iff.mp hr
  rw [Sql.Template.render_eq (complete_ok (insertCommand_ok h)).1]
  exact (Statement.templates_ok_iff.mp htemplates).insert_lists _

/-- What an update sets. -/
theorem update_filled (hg : ds.resolve = .ok g) (hr : r ∈ g.resources) {op : Operation}
    {filter payload : Object} (h : r.updateCommand op filter payload = .ok cmd) :
    ∃ values, cmd.text = filledText r.templates.update.segments values ∧
      r.templates.update.Puts values .updates
        (Sql.setList (r.assignmentsBehind op filter payload)) :=
  ⟨_, Sql.Template.render_eq (complete_ok (updateCommand_ok h)).1,
    (Compile.templates_made hg hr).has_updates, rfl⟩

end Resource

end RowServe
