import RowServe.Proofs.Resource.Compiles

/-!
# Printed statements

A template is printed as the text of its statement, with every open slot as its name between
braces. The names of the table and of its key are part of the source a template is read from,
so their braces count; what is shown is filled in later, so its braces do not.

Results:

* `written_printed`: the written templates are printed as the fixed texts.
* `verbatim_of_printed`: other templates are not.
* `resolve_printed_iff`: exactly declarations with verbatim names of tables and keys resolve to
  resources whose statements are printed as the fixed texts.
-/

namespace RowServe

open Sql (Segment Slot Template quoted qualified)
open Sql.Template (Exact Plain Verbatim VerbatimText display display_fill exact_of_parse filledText
  parse verbatim_of_exact)

/-- The template is printed as the text, and these are its open slots. -/
structure Sql.Template.Prints (t : Template) (text : String) (slots : List Slot) : Prop where
  text : t.display = text
  slots : t.openSlots = slots

namespace Statement

/-! ## Fixed texts -/

/-- The text of an insert. -/
def insertText (table pk : String) : String :=
  "INSERT INTO " ++ quoted table ++ " (\x7bcols\x7d) VALUES (\x7bvals\x7d) RETURNING to_json(" ++
    quoted table ++ "." ++ quoted pk ++ ")"

/-- The text of a read of one row that shows the expression. -/
def getText (table select : String) : String :=
  "SELECT " ++ select ++ " AS \"inner\" FROM " ++ quoted table ++
    " \x7bjoins\x7d WHERE \x7bwhere\x7d LIMIT 1"

/-- The text of a list that shows the expression. -/
def listText (table select : String) : String :=
  "SELECT json_build_object('data', COALESCE((SELECT json_agg(page.\"inner\" ORDER BY page.rn) " ++
    "FROM (SELECT " ++ select ++ " AS \"inner\", row_number() OVER (" ++
    "ORDER BY \x7borderby\x7d \x7borderhow\x7d) AS rn FROM " ++ quoted table ++
    " \x7bjoins\x7d WHERE \x7bwhere\x7d ORDER BY \x7borderby\x7d \x7borderhow\x7d" ++
    " LIMIT \x7blimit\x7d OFFSET \x7boffset\x7d" ++
    ") page), '[]'::json), 'total_count', (SELECT count(*) FROM " ++ quoted table ++
    " \x7bjoins\x7d WHERE \x7bwhere\x7d)) AS \"outer\""

/-- The text of an update. -/
def updateText (table : String) : String :=
  "WITH rows AS (UPDATE " ++ quoted table ++
    " SET \x7bupdates\x7d WHERE \x7bwhere\x7d RETURNING 1) SELECT count(*) FROM rows"

/-- The text of a delete. -/
def deleteText (table : String) : String :=
  "WITH rows AS (DELETE FROM " ++ quoted table ++
    " WHERE \x7bwhere\x7d RETURNING 1) SELECT count(*) FROM rows"

/-- The text of a delete that gives the deleted keys. -/
def deleteDeepText (table pk : String) : String :=
  "WITH rows AS (DELETE FROM " ++ quoted table ++ " WHERE \x7bwhere\x7d RETURNING " ++
    quoted table ++ "." ++ quoted pk ++ ") SELECT json_agg(rows." ++ quoted pk ++ ") FROM rows"

/-- The templates are printed as the fixed texts with the names of the table and the key in
    quotes, and the rest is left open. -/
structure Printed (t : Templates) (view : TableView) (hidden : Option String) : Prop where
  insert : t.insert.Prints (insertText view.table view.pk) [.cols, .vals]
  getBase : t.getBase.Prints (getText view.table "\x7bselect\x7d") [.select, .joins, .predicate]
  get : t.get.Prints
    (getText view.table (Selection.sql view (Selection.default view hidden) false))
    [.joins, .predicate]
  listBase : t.listBase.Prints (listText view.table "\x7bselect\x7d")
    [.select, .orderBy, .orderHow, .joins, .predicate, .limit, .offset]
  list : t.list.Prints
    (listText view.table (Selection.sql view (Selection.default view hidden) true))
    [.orderBy, .orderHow, .joins, .predicate, .limit, .offset]
  update : t.update.Prints (updateText view.table) [.updates, .predicate]
  delete : t.delete.Prints (deleteText view.table) [.predicate]
  deleteDeep : t.deleteDeep.Prints (deleteDeepText view.table view.pk) [.predicate]

/-! ## Sources -/

theorem insertSource_text (table pk : String) : insertSource table pk = insertText table pk := by
  have hslots : " (\x7bcols\x7d) VALUES (\x7bvals\x7d) RETURNING to_json(" =
      " (" ++ slotText .cols ++ ") VALUES (" ++ slotText .vals ++ ") RETURNING to_json(" := rfl
  unfold insertSource insertText qualified
  rw [hslots]
  simp only [String.append_assoc]

theorem updateSource_text (table : String) : updateSource table = updateText table := by
  have hslots : " SET \x7bupdates\x7d WHERE \x7bwhere\x7d RETURNING 1) SELECT count(*) FROM rows" =
      " SET " ++ slotText .updates ++ " WHERE " ++ slotText .predicate ++
        " RETURNING 1) SELECT count(*) FROM rows" := rfl
  unfold updateSource updateText
  rw [hslots]
  simp only [String.append_assoc]

theorem deleteSource_text (table : String) : deleteSource table = deleteText table := by
  have hslots : " WHERE \x7bwhere\x7d RETURNING 1) SELECT count(*) FROM rows" =
      " WHERE " ++ slotText .predicate ++ " RETURNING 1) SELECT count(*) FROM rows" := rfl
  unfold deleteSource deleteText
  rw [hslots]
  simp only [String.append_assoc]

theorem deleteDeepSource_text (table pk : String) :
    deleteDeepSource table pk = deleteDeepText table pk := by
  have hslots : " WHERE \x7bwhere\x7d RETURNING " =
      " WHERE " ++ slotText .predicate ++ " RETURNING " := rfl
  unfold deleteDeepSource deleteDeepText qualified
  rw [hslots]
  simp only [String.append_assoc]

/-! ## Written templates -/

/-- A segment as text, with what is shown put in. -/
def segmentText (select : String) : Segment → String
  | .text s => s
  | .gap .select => select
  | .gap slot => slotText slot

theorem display_base (segments : List Segment) :
    display ⟨segments⟩ = String.join (segments.map (segmentText "\x7bselect\x7d")) := by
  refine congrArg String.join (List.map_congr_left fun s _ => ?_)
  cases s with
  | text s => rfl
  | gap slot => cases slot <;> rfl

theorem display_withSelect (segments : List Segment) (select : String) :
    (withSelect ⟨segments⟩ select).display = String.join (segments.map (segmentText select)) := by
  unfold withSelect
  rw [display_fill, filledText]
  refine congrArg String.join (List.map_congr_left fun s _ => ?_)
  cases s with
  | text s => rfl
  | gap slot => cases slot <;> rfl

theorem join_get (table select : String) :
    String.join ((getSegments table).map (segmentText select)) = getText table select := by
  have hslots : " \x7bjoins\x7d WHERE \x7bwhere\x7d LIMIT 1" =
      " " ++ slotText .joins ++ " WHERE " ++ slotText .predicate ++ " LIMIT 1" := rfl
  unfold getSegments getText
  rw [hslots]
  simp only [List.map_cons, List.map_nil, String.join_cons, String.join_nil, segmentText,
    String.append_assoc, String.append_empty, -String.reduceAppend]

theorem join_list (table select : String) :
    String.join ((listSegments table).map (segmentText select)) = listText table select := by
  have hover : "ORDER BY \x7borderby\x7d \x7borderhow\x7d) AS rn FROM " =
      "ORDER BY " ++ slotText .orderBy ++ " " ++ slotText .orderHow ++ ") AS rn FROM " := rfl
  have hrows : " \x7bjoins\x7d WHERE \x7bwhere\x7d ORDER BY \x7borderby\x7d \x7borderhow\x7d" =
      " " ++ slotText .joins ++ " WHERE " ++ slotText .predicate ++ " " ++ "ORDER BY " ++
        slotText .orderBy ++ " " ++ slotText .orderHow := rfl
  have hpage : " LIMIT \x7blimit\x7d OFFSET \x7boffset\x7d" =
      " LIMIT " ++ slotText .limit ++ " OFFSET " ++ slotText .offset := rfl
  have hcount : " \x7bjoins\x7d WHERE \x7bwhere\x7d)) AS \"outer\"" =
      " " ++ slotText .joins ++ " WHERE " ++ slotText .predicate ++ ")) AS \"outer\"" := rfl
  unfold listSegments listText listHead
  rw [hover, hrows, hpage, hcount]
  simp only [List.map_cons, List.map_nil, String.join_cons, String.join_nil, segmentText,
    String.append_assoc, String.append_empty, -String.reduceAppend]

variable {view : TableView} {hidden : Option String} {dependents : List Dependent}

/-- The written templates are printed as the fixed texts. -/
theorem written_printed : Printed (written view hidden dependents) view hidden where
  insert := ⟨(insertSource_eq _ _).symm.trans (insertSource_text _ _), rfl⟩
  getBase := ⟨(display_base _).trans (join_get _ _), rfl⟩
  get := ⟨(display_withSelect _ _).trans (join_get _ _), rfl⟩
  listBase := ⟨(display_base _).trans (join_list _ _), rfl⟩
  list := ⟨(display_withSelect _ _).trans (join_list _ _), rfl⟩
  update := ⟨(updateSource_eq _).symm.trans (updateSource_text _), rfl⟩
  delete := ⟨(deleteSource_eq _).symm.trans (deleteSource_text _), rfl⟩
  deleteDeep := ⟨(deleteDeepSource_eq _ _).symm.trans (deleteDeepSource_text _ _), rfl⟩

/-! ## Other templates -/

/-- What a source starts with before a quoted name, and what follows the name. -/
theorem exact_name {slots : List Slot} {source back name : String} {front : List Segment}
    (hsource : source = display ⟨front⟩ ++ quoted name ++ back) (hfront : VerbatimText front)
    (h : Exact slots source.toList) : Exact slots ((quoted name).toList ++ back.toList) := by
  rw [hsource, String.toList_append, String.toList_append, List.append_assoc] at h
  exact h.of_display hfront

/-- An insert and a delete have no slot in common, so the name of a table is verbatim if both
    show it as it stands. -/
theorem verbatim_table {table pk : String}
    (hinsert : Exact [.cols, .vals] (insertSource table pk).toList)
    (hdelete : Exact [.predicate] (deleteSource table).toList) : Verbatim table := by
  have hinto : insertSource table pk = display ⟨[.text "INSERT INTO "]⟩ ++ quoted table ++
      (" (" ++ slotText .cols ++ ") VALUES (" ++ slotText .vals ++ ") RETURNING to_json(" ++
        qualified table pk ++ ")") := by
    unfold insertSource
    simp only [display_cons, display_nil, Sql.Template.Segment.display, String.append_assoc,
      String.append_empty, -String.reduceAppend]
  have hfrom : deleteSource table = display ⟨[.text "WITH rows AS (DELETE FROM "]⟩ ++
      quoted table ++
      (" WHERE " ++ slotText .predicate ++ " RETURNING 1) SELECT count(*) FROM rows") := by
    unfold deleteSource
    simp only [display_cons, display_nil, Sql.Template.Segment.display, String.append_assoc,
      String.append_empty, -String.reduceAppend]
  exact verbatim_of_exact (by simp) (exact_name hinto ⟨Plain.verbatim (by decide), trivial⟩ hinsert)
    (exact_name hfrom ⟨Plain.verbatim (by decide), trivial⟩ hdelete)

/-- So is the name of its key, which both show behind the name of the table. -/
theorem verbatim_key {table pk : String} (htable : Verbatim table)
    (hinsert : Exact [.cols, .vals] (insertSource table pk).toList)
    (hdelete : Exact [.predicate] (deleteDeepSource table pk).toList) : Verbatim pk := by
  have hinto : insertSource table pk = display ⟨[.text ("INSERT INTO " ++ quoted table ++ " ("),
      .gap .cols, .text ") VALUES (", .gap .vals,
      .text (") RETURNING to_json(" ++ quoted table ++ ".")]⟩ ++ quoted pk ++ ")" := by
    unfold insertSource qualified
    simp only [display_cons, display_nil, Sql.Template.Segment.display, slotText,
      String.append_assoc, String.append_empty, -String.reduceAppend]
  have hfrom : deleteDeepSource table pk =
      display ⟨[.text ("WITH rows AS (DELETE FROM " ++ quoted table ++ " WHERE "), .gap .predicate,
        .text (" RETURNING " ++ quoted table ++ ".")]⟩ ++ quoted pk ++
      (") SELECT json_agg(rows." ++ quoted pk ++ ") FROM rows") := by
    unfold deleteDeepSource qualified
    simp only [display_cons, display_nil, Sql.Template.Segment.display, slotText,
      String.append_assoc, String.append_empty, -String.reduceAppend]
  refine verbatim_of_exact (by simp) (exact_name hinto ?_ hinsert) (exact_name hfrom ?_ hdelete)
  · exact ⟨verbatim_around (Plain.verbatim (by decide)) htable (by decide),
      Plain.verbatim (by decide),
      verbatim_around (Plain.verbatim (by decide)) htable (by decide), trivial⟩
  · exact ⟨verbatim_deleteFrom htable,
      verbatim_around (Plain.verbatim (by decide)) htable (by decide), trivial⟩

/-- Only verbatim names are printed as they stand wherever they are. -/
theorem verbatim_of_printed {t : Templates} (h : templates view hidden dependents = .ok t)
    (hprinted : Printed t view hidden) : Verbatim view.table ∧ Verbatim view.pk := by
  have hmade := templates_ok_iff.mp h
  have hinsert := exact_of_parse hmade.insert
    (hprinted.insert.text.trans (insertSource_text _ _).symm)
  have hdelete := exact_of_parse hmade.delete
    (hprinted.delete.text.trans (deleteSource_text _).symm)
  have hdeep := exact_of_parse hmade.deleteDeep
    (hprinted.deleteDeep.text.trans (deleteDeepSource_text _ _).symm)
  rw [hprinted.insert.slots] at hinsert
  rw [hprinted.delete.slots] at hdelete
  rw [hprinted.deleteDeep.slots] at hdeep
  have htable := verbatim_table hinsert hdelete
  exact ⟨htable, verbatim_key htable hinsert hdeep⟩

end Statement

/-- The statements of the resource are printed as the fixed texts. -/
def Resource.Printed (r : Resource) : Prop :=
  Statement.Printed r.templates r.toTableView r.kidColumn

/-- The names of the tables and of their keys stand for themselves in a source. -/
def Declarations.VerbatimNames (ds : Declarations) : Prop :=
  ∀ d ∈ ds, d.isKid = false →
    Verbatim d.tableName ∧ ∀ e ∈ d.fields, e.primaryKey = true → Verbatim e.name

instance (ds : Declarations) : Decidable ds.VerbatimNames :=
  inferInstanceAs (Decidable (∀ d ∈ ds, _))

namespace Compile

variable {ds : Declarations} {d : ResourceDecl} {r : Resource}

/-! ## Resources -/

/-- Which resources have statements that are printed as the fixed texts. -/
theorem printed_iff (hr : resource ds d = .ok r) :
    r.Printed ↔ Verbatim r.table ∧ Verbatim r.pk := by
  obtain ⟨p, templates, hp, ht, rfl⟩ := resource_ok_iff.mp hr
  refine ⟨fun h => Statement.verbatim_of_printed ht h, fun ⟨htable, hkey⟩ => ?_⟩
  have hwritten := ht.symm.trans (Statement.templates_verbatim (p.view ds d) htable hkey _ _)
  have hprinted : Statement.Printed (Statement.written (p.view ds d) (Parts.hidden d)
      (p.dependents ds d)) (p.view ds d) (Parts.hidden d) := Statement.written_printed
  rwa [← Except.ok.inj hwritten] at hprinted

/-- The names in the statements of a resource are those of its owner. -/
theorem verbatim_view (hcheck : ds.check = .ok ()) (hnames : ds.VerbatimNames) (hd : d ∈ ds)
    {p : Parts} (hp : p.Valid ds d) :
    Verbatim (p.view ds d).table ∧ Verbatim (p.view ds d).pk := by
  obtain ⟨howner, hplain⟩ := owner_plain hcheck hd
  rw [← hp.owner_eq] at howner hplain
  obtain ⟨htable, hkeys⟩ := hnames _ howner hplain
  have hprimary : p.pk.primaryKey = true := by simpa using List.find?_some hp.pk
  exact ⟨htable, hkeys p.pk (List.mem_of_find?_eq_some hp.pk) hprimary⟩

/-- Checked declarations with verbatim names have compiled forms. -/
theorem exists_resource (hcheck : ds.check = .ok ()) {ts : List TableDef}
    (htables : TableDef.ofDecls ds = .ok ts) (hnames : ds.VerbatimNames) (hd : d ∈ ds) :
    ∃ r, resource ds d = .ok r := by
  obtain ⟨p, hp⟩ := exists_parts hcheck htables hd
  have hvalid := parts_ok_iff.mp hp
  obtain ⟨htable, hkey⟩ := verbatim_view hcheck hnames hd hvalid
  exact ⟨_, resource_ok_iff.mpr
    ⟨p, _, hvalid, Statement.templates_verbatim _ htable hkey _ _, rfl⟩⟩

/-- The key of a table has the name that its resource uses. -/
theorem pk_of_key (hkey : TableDef.checkKey d = .ok ()) {e : FieldDecl} (he : e ∈ d.fields)
    (hprimary : e.primaryKey = true) : d.primaryKey? = some e := by
  obtain ⟨key, hkeys, _⟩ := TableDef.checkKey_one hkey
  have hmem : e ∈ d.fields.filter (·.primaryKey) := List.mem_filter.mpr ⟨he, hprimary⟩
  rw [hkeys] at hmem
  rw [TableDef.primaryKey?_of_one hkeys, List.mem_singleton.mp hmem]

/-- The names of declarations whose resources are printed as the fixed texts are verbatim. -/
theorem verbatimNames_of_printed {g : Registry} (hg : ds.resolve = .ok g)
    (hprinted : ∀ r ∈ g.resources, r.Printed) : ds.VerbatimNames := by
  obtain ⟨_, htables, hrs⟩ := resolve_ok_iff.mp hg
  intro d hd hplain
  obtain ⟨r, hr, hcompiled⟩ := partner_of_mem hrs.flip hd
  obtain ⟨htable, hkey⟩ := (printed_iff hcompiled).mp (hprinted r hr)
  obtain ⟨howner, ⟨pk, hpk, hname⟩, _⟩ := resource_owner hcompiled
  have hself : ds.owner d = d := by
    rw [Declarations.owner, ResourceDecl.extends_none hplain]
  rw [hself] at howner hpk
  rw [howner] at htable
  refine ⟨htable, fun e he hprimary => ?_⟩
  have hfound := pk_of_key (TableDef.mem_ofDecls htables hd hplain).1 he hprimary
  rw [hname, Option.some.inj (hpk.symm.trans hfound)] at hkey
  exact hkey

/-- Declarations that are checked, and have tables, fail to resolve only because of a name in
    the source of a template. If they resolve, the statements of a resource are printed as the
    fixed texts exactly if the names of its table and its key are verbatim; all statements are,
    exactly if the names of all tables and their keys are. -/
theorem resolve_printed_iff (hcheck : ds.check = .ok ()) {ts : List TableDef}
    (htables : TableDef.ofDecls ds = .ok ts) :
    FailsWith IsTemplateError ds.resolve ∧
      (∀ g, ds.resolve = .ok g → ∀ r ∈ g.resources,
        (r.Printed ↔ Verbatim r.table ∧ Verbatim r.pk)) ∧
      ((∃ g, ds.resolve = .ok g ∧ ∀ r ∈ g.resources, r.Printed) ↔ ds.VerbatimNames) := by
  refine ⟨fails_resolve hcheck htables, fun g hg r hr => ?_, ?_, fun hnames => ?_⟩
  · obtain ⟨d, _, hcompiled⟩ := mem_resolved hg hr
    exact printed_iff hcompiled
  · rintro ⟨g, hg, hprinted⟩
    exact verbatimNames_of_printed hg hprinted
  · obtain ⟨rs, hrs⟩ := exists_mapM fun d hd => exists_resource hcheck htables hnames hd
    have hresolve : ds.resolve = .ok ⟨rs, ts⟩ :=
      resolve_ok_iff.mpr ⟨hcheck, htables, mapM_eq_ok.mp hrs⟩
    refine ⟨⟨rs, ts⟩, hresolve, fun r hr => ?_⟩
    obtain ⟨d, hd, hcompiled⟩ := mem_resolved hresolve hr
    obtain ⟨p, templates, hp, _, rfl⟩ := resource_ok_iff.mp hcompiled
    exact (printed_iff hcompiled).mpr (verbatim_view hcheck hnames hd hp)

/-- One resource with a table of the name. -/
def single (table : String) : Declarations :=
  [⟨"T", some table, [.key "id"], { ResourceMeta.plain with route := some "t" }⟩]

/-- The name of a table may have a closing brace. -/
theorem single_printed :
    ∃ g, (single "t\x7d").resolve = .ok g ∧ ∀ r ∈ g.resources, r.Printed := by
  have hcheck : (single "t\x7d").check = .ok () := by decide +kernel
  exact (resolve_printed_iff hcheck rfl).2.2.mpr (by decide)

/-- An opening one begins a slot. -/
theorem single_fails :
    (single "t\x7bx\x7d").check = .ok () ∧
      (TableDef.ofDecls (single "t\x7bx\x7d")).toOption.isSome = true ∧
      (single "t\x7bx\x7d").resolve = .error (.template (.unknownSlot "x")) := by
  refine ⟨by decide +kernel, rfl, ?_⟩
  have hfails : (match (single "t\x7bx\x7d").resolve with
      | .ok _ => none
      | .error e => some e) = some (.template (.unknownSlot "x")) := by
    decide +kernel
  split at hfails
  · contradiction
  · rename_i e he
    rw [he, Option.some.inj hfails]

end Compile

end RowServe
