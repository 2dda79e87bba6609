import RowServe.Proofs.Template.Verbatim
import RowServe.Resource.Statement

/-!
# Written templates

The templates of a resource, segment by segment. If the names of the table and of its key
stand for themselves in a source, as all names without braces do, reading the sources never
fails and gives exactly these segments.

Results:

* `templates_ok_iff`: what the templates of a resource are read from.
* `templates_verbatim`: the templates of verbatim names are the written ones.
* `templates_plain`: so are those of names without braces.
* `templates_reread`: for other names too the segments can be read in place of the sources.
-/

namespace RowServe.Statement

open Sql (Segment Template quoted qualified)
open Sql.Template (Canonical Plain Verbatim VerbatimText display display_toList head_quoted parse
  parse_display readFrom)

/-- The segments of a read of one row. -/
def getSegments (table : String) : List Segment :=
  [.text "SELECT ", .gap .select, .text (" AS \"inner\" FROM " ++ quoted table ++ " "),
    .gap .joins, .text " WHERE ", .gap .predicate, .text " LIMIT 1"]

/-- What a list starts with. -/
def listHead : String :=
  "SELECT json_build_object('data', COALESCE((SELECT json_agg(page.\"inner\" ORDER BY page.rn) " ++
    "FROM (SELECT "

/-- The segments of a list. -/
def listSegments (table : String) : List Segment :=
  [.text listHead, .gap .select,
    .text (" AS \"inner\", row_number() OVER (" ++ "ORDER BY "), .gap .orderBy, .text " ",
    .gap .orderHow, .text (") AS rn FROM " ++ quoted table ++ " "), .gap .joins, .text " WHERE ",
    .gap .predicate, .text (" " ++ "ORDER BY "), .gap .orderBy, .text " ", .gap .orderHow,
    .text " LIMIT ", .gap .limit, .text " OFFSET ", .gap .offset,
    .text (") page), '[]'::json), 'total_count', (SELECT count(*) FROM " ++ quoted table ++ " "),
    .gap .joins, .text " WHERE ", .gap .predicate, .text ")) AS \"outer\""]

/-- The segments of an insert. -/
def insertSegments (table pk : String) : List Segment :=
  [.text ("INSERT INTO " ++ quoted table ++ " ("), .gap .cols, .text ") VALUES (", .gap .vals,
    .text (") RETURNING to_json(" ++ qualified table pk ++ ")")]

/-- The segments of an update. -/
def updateSegments (table : String) : List Segment :=
  [.text ("WITH rows AS (UPDATE " ++ quoted table ++ " SET "), .gap .updates, .text " WHERE ",
    .gap .predicate, .text " RETURNING 1) SELECT count(*) FROM rows"]

/-- The segments of a delete. -/
def deleteSegments (table : String) : List Segment :=
  [.text ("WITH rows AS (DELETE FROM " ++ quoted table ++ " WHERE "), .gap .predicate,
    .text " RETURNING 1) SELECT count(*) FROM rows"]

/-- The segments of a delete that gives the deleted keys. -/
def deleteDeepSegments (table pk : String) : List Segment :=
  [.text ("WITH rows AS (DELETE FROM " ++ quoted table ++ " WHERE "), .gap .predicate,
    .text (" RETURNING " ++ qualified table pk ++ ") SELECT json_agg(rows." ++ quoted pk ++
      ") FROM rows")]

/-- The templates of a resource as they are written. -/
def written (view : TableView) (hidden : Option String) (dependents : List Dependent) :
    Templates :=
  let selection := Selection.default view hidden
  { insert := ⟨insertSegments view.table view.pk⟩
    get := withSelect ⟨getSegments view.table⟩ (Selection.sql view selection false)
    getBase := ⟨getSegments view.table⟩
    list := withSelect ⟨listSegments view.table⟩ (Selection.sql view selection true)
    listBase := ⟨listSegments view.table⟩
    update := ⟨updateSegments view.table⟩
    delete := ⟨deleteSegments view.table⟩
    deleteDeep := ⟨deleteDeepSegments view.table view.pk⟩
    cleanup := cleanupStatement dependents
    getJoins := Selection.joins view selection
    listJoins := Selection.joins view selection }

/-! ## Sources -/

/-- The text of segments, one after the other. -/
theorem display_cons (s : Segment) (segments : List Segment) :
    display ⟨s :: segments⟩ = Sql.Template.Segment.display s ++ display ⟨segments⟩ :=
  String.join_cons

theorem display_nil : display ⟨[]⟩ = "" := rfl

theorem getSource_eq (table : String) : getSource table = display ⟨getSegments table⟩ := by
  unfold getSource getSegments
  simp only [display_cons, display_nil, Sql.Template.Segment.display, slotText,
    String.append_assoc, String.append_empty, -String.reduceAppend]

theorem listSource_eq (table : String) : listSource table = display ⟨listSegments table⟩ := by
  unfold listSource orderSource listSegments listHead
  simp only [display_cons, display_nil, Sql.Template.Segment.display, slotText,
    String.append_assoc, String.append_empty, -String.reduceAppend]

theorem insertSource_eq (table pk : String) :
    insertSource table pk = display ⟨insertSegments table pk⟩ := by
  unfold insertSource insertSegments
  simp only [display_cons, display_nil, Sql.Template.Segment.display, slotText,
    String.append_assoc, String.append_empty, -String.reduceAppend]

theorem updateSource_eq (table : String) :
    updateSource table = display ⟨updateSegments table⟩ := by
  unfold updateSource updateSegments
  simp only [display_cons, display_nil, Sql.Template.Segment.display, slotText,
    String.append_assoc, String.append_empty, -String.reduceAppend]

theorem deleteSource_eq (table : String) :
    deleteSource table = display ⟨deleteSegments table⟩ := by
  unfold deleteSource deleteSegments
  simp only [display_cons, display_nil, Sql.Template.Segment.display, slotText,
    String.append_assoc, String.append_empty, -String.reduceAppend]

theorem deleteDeepSource_eq (table pk : String) :
    deleteDeepSource table pk = display ⟨deleteDeepSegments table pk⟩ := by
  unfold deleteDeepSource deleteDeepSegments
  simp only [display_cons, display_nil, Sql.Template.Segment.display, slotText,
    String.append_assoc, String.append_empty, -String.reduceAppend]

/-! ## Reading the sources -/

theorem canonical_get (table : String) : Canonical (getSegments table) := by
  simp [Canonical, getSegments]

theorem canonical_list (table : String) : Canonical (listSegments table) := by
  have hhead : listHead ≠ "" := fun h => absurd (String.append_eq_empty_iff.mp h).1 (by decide)
  simp [Canonical, listSegments, hhead]

theorem canonical_insert (table pk : String) : Canonical (insertSegments table pk) := by
  simp [Canonical, insertSegments]

theorem canonical_update (table : String) : Canonical (updateSegments table) := by
  simp [Canonical, updateSegments]

theorem canonical_delete (table : String) : Canonical (deleteSegments table) := by
  simp [Canonical, deleteSegments]

theorem canonical_deleteDeep (table pk : String) : Canonical (deleteDeepSegments table pk) := by
  simp [Canonical, deleteDeepSegments]

/-- A name in quotes between texts without braces. -/
theorem verbatim_around {front name back : String} (hfront : Verbatim front) (h : Verbatim name)
    (hback : Plain back) : Verbatim (front ++ quoted name ++ back) :=
  (hfront.append h.quoted (head_quoted name)).append_plain hback

theorem verbatim_get {table : String} (h : Verbatim table) : VerbatimText (getSegments table) := by
  have hfrom : Verbatim (" AS \"inner\" FROM " ++ quoted table ++ " ") :=
    verbatim_around (Plain.verbatim (by decide)) h (by decide)
  unfold getSegments
  simp only [VerbatimText, and_true]
  exact ⟨Plain.verbatim (by decide), hfrom, Plain.verbatim (by decide), Plain.verbatim (by decide)⟩

theorem verbatim_list {table : String} (h : Verbatim table) :
    VerbatimText (listSegments table) := by
  have hfrom : Verbatim (") AS rn FROM " ++ quoted table ++ " ") :=
    verbatim_around (Plain.verbatim (by decide)) h (by decide)
  have hcount : Verbatim
      (") page), '[]'::json), 'total_count', (SELECT count(*) FROM " ++ quoted table ++ " ") :=
    verbatim_around (Plain.verbatim (by decide +kernel)) h (by decide)
  have hhead : Verbatim listHead :=
    (Plain.verbatim (by decide +kernel)).append_plain (by decide)
  have hover : Verbatim (" AS \"inner\", row_number() OVER (" ++ "ORDER BY ") :=
    (Plain.verbatim (by decide)).append_plain (by decide)
  have horder : Verbatim (" " ++ "ORDER BY ") :=
    (Plain.verbatim (by decide)).append_plain (by decide)
  have hword : Verbatim " " := Plain.verbatim (by decide)
  have hwhere : Verbatim " WHERE " := Plain.verbatim (by decide)
  unfold listSegments
  simp only [VerbatimText, and_true]
  exact ⟨hhead, hover, hword, hfrom, hwhere, horder, hword, Plain.verbatim (by decide),
    Plain.verbatim (by decide), hcount, hwhere, Plain.verbatim (by decide)⟩

theorem verbatim_insert {table pk : String} (ht : Verbatim table) (hk : Verbatim pk) :
    VerbatimText (insertSegments table pk) := by
  have hinto : Verbatim ("INSERT INTO " ++ quoted table ++ " (") :=
    verbatim_around (Plain.verbatim (by decide)) ht (by decide)
  have hreturning : Verbatim (") RETURNING to_json(" ++ qualified table pk ++ ")") := by
    have hkey : Verbatim (") RETURNING to_json(" ++ quoted table ++ "." ++ quoted pk ++ ")") :=
      verbatim_around (verbatim_around (Plain.verbatim (by decide)) ht (by decide)) hk (by decide)
    simpa only [qualified, String.append_assoc] using hkey
  unfold insertSegments
  simp only [VerbatimText, and_true]
  exact ⟨hinto, Plain.verbatim (by decide), hreturning⟩

theorem verbatim_update {table : String} (h : Verbatim table) :
    VerbatimText (updateSegments table) := by
  have hset : Verbatim ("WITH rows AS (UPDATE " ++ quoted table ++ " SET ") :=
    verbatim_around (Plain.verbatim (by decide)) h (by decide)
  unfold updateSegments
  simp only [VerbatimText, and_true]
  exact ⟨hset, Plain.verbatim (by decide), Plain.verbatim (by decide)⟩

theorem verbatim_deleteFrom {table : String} (h : Verbatim table) :
    Verbatim ("WITH rows AS (DELETE FROM " ++ quoted table ++ " WHERE ") :=
  verbatim_around (Plain.verbatim (by decide)) h (by decide)

theorem verbatim_delete {table : String} (h : Verbatim table) :
    VerbatimText (deleteSegments table) := by
  unfold deleteSegments
  simp only [VerbatimText, and_true]
  exact ⟨verbatim_deleteFrom h, Plain.verbatim (by decide)⟩

theorem verbatim_deleteDeep {table pk : String} (ht : Verbatim table) (hk : Verbatim pk) :
    VerbatimText (deleteDeepSegments table pk) := by
  have hreturning : Verbatim (" RETURNING " ++ qualified table pk ++ ") SELECT json_agg(rows." ++
      quoted pk ++ ") FROM rows") := by
    have hkey : Verbatim (" RETURNING " ++ quoted table ++ "." ++ quoted pk ++
        ") SELECT json_agg(rows." ++ quoted pk ++ ") FROM rows") :=
      verbatim_around (verbatim_around (verbatim_around (Plain.verbatim (by decide)) ht (by decide))
        hk (by decide)) hk (by decide)
    simpa only [qualified, String.append_assoc] using hkey
  unfold deleteDeepSegments
  simp only [VerbatimText, and_true]
  exact ⟨verbatim_deleteFrom ht, hreturning⟩

theorem ofSource_display {segments : List Segment} (h : Canonical segments)
    (hverbatim : VerbatimText segments) : ofSource (display ⟨segments⟩) = .ok ⟨segments⟩ := by
  unfold ofSource
  rw [parse_display h hverbatim]

/-- The templates of verbatim names are the written ones. -/
theorem templates_verbatim (view : TableView) (ht : Verbatim view.table) (hk : Verbatim view.pk)
    (hidden : Option String) (dependents : List Dependent) :
    templates view hidden dependents = .ok (written view hidden dependents) := by
  unfold templates
  rw [getSource_eq, listSource_eq, insertSource_eq, updateSource_eq, deleteSource_eq,
    deleteDeepSource_eq, ofSource_display (canonical_get _) (verbatim_get ht),
    ofSource_display (canonical_list _) (verbatim_list ht),
    ofSource_display (canonical_insert _ _) (verbatim_insert ht hk),
    ofSource_display (canonical_update _) (verbatim_update ht),
    ofSource_display (canonical_delete _) (verbatim_delete ht),
    ofSource_display (canonical_deleteDeep _ _) (verbatim_deleteDeep ht hk)]
  rfl

/-- The templates of names without braces are the written ones. -/
theorem templates_plain (view : TableView) (ht : Plain view.table) (hk : Plain view.pk)
    (hidden : Option String) (dependents : List Dependent) :
    templates view hidden dependents = .ok (written view hidden dependents) :=
  templates_verbatim view ht.verbatim hk.verbatim hidden dependents

/-! ## Templates that are read -/

theorem ofSource_eq_ok {source : String} {t : Template} :
    ofSource source = .ok t ↔ parse source = .ok t := by
  unfold ofSource
  cases parse source with
  | ok t' => simp
  | error e => simp

/-- What the templates of a resource are read from, and what is filled in at once. -/
structure Made (t : Templates) (view : TableView) (hidden : Option String)
    (dependents : List Dependent) : Prop where
  insert : parse (insertSource view.table view.pk) = .ok t.insert
  getBase : parse (getSource view.table) = .ok t.getBase
  get : t.get =
    withSelect t.getBase (Selection.sql view (Selection.default view hidden) false)
  listBase : parse (listSource view.table) = .ok t.listBase
  list : t.list =
    withSelect t.listBase (Selection.sql view (Selection.default view hidden) true)
  update : parse (updateSource view.table) = .ok t.update
  delete : parse (deleteSource view.table) = .ok t.delete
  deleteDeep : parse (deleteDeepSource view.table view.pk) = .ok t.deleteDeep
  cleanup : t.cleanup = cleanupStatement dependents
  getJoins : t.getJoins = Selection.joins view (Selection.default view hidden)
  listJoins : t.listJoins = Selection.joins view (Selection.default view hidden)

theorem templates_ok_iff {view : TableView} {hidden : Option String}
    {dependents : List Dependent} {t : Templates} :
    templates view hidden dependents = .ok t ↔ Made t view hidden dependents := by
  unfold templates
  simp only [bind_eq_ok, ofSource_eq_ok]
  constructor
  · rintro ⟨getBase, hget, listBase, hlist, insert, hinsert, update, hupdate, delete, hdelete,
      deleteDeep, hdeep, he⟩
    rw [← Except.ok.inj he]
    exact ⟨hinsert, hget, rfl, hlist, rfl, hupdate, hdelete, hdeep, rfl, rfl, rfl⟩
  · intro h
    obtain ⟨insert, get, getBase, list, listBase, update, delete, deleteDeep, cleanup, getJoins,
      listJoins⟩ := t
    obtain ⟨hinsert, hgetBase, hget, hlistBase, hlist, hupdate, hdelete, hdeep, hcleanup,
      hgetJoins, hlistJoins⟩ := h
    dsimp only at hget hlist hcleanup hgetJoins hlistJoins
    subst hget hlist hcleanup hgetJoins hlistJoins
    exact ⟨getBase, hgetBase, listBase, hlistBase, insert, hinsert, update, hupdate, delete,
      hdelete, deleteDeep, hdeep, rfl⟩

/-! ## Reading segment by segment -/

/-- Segments read back one after the other; their texts are not put together before. -/
def reread (segments : List Segment) : Except ConfigError Template :=
  match readFrom 0 .text [] (segments.flatMap fun s => (Sql.Template.Segment.display s).toList) with
  | .ok read => .ok ⟨read⟩
  | .error e => .error (.template e)

theorem reread_eq (segments : List Segment) : reread segments = ofSource (display ⟨segments⟩) := by
  unfold reread ofSource parse
  rw [display_toList]
  cases readFrom 0 .text [] (segments.flatMap fun s => (Sql.Template.Segment.display s).toList) with
  | ok read => rfl
  | error e => rfl

/-- The templates of a resource, read back from the segments that they are written in. -/
def rereadTemplates (view : TableView) (hidden : Option String) (dependents : List Dependent) :
    Except ConfigError Templates := do
  let selection := Selection.default view hidden
  let getBase ← reread (getSegments view.table)
  let listBase ← reread (listSegments view.table)
  let insert ← reread (insertSegments view.table view.pk)
  let update ← reread (updateSegments view.table)
  let delete ← reread (deleteSegments view.table)
  let deleteDeep ← reread (deleteDeepSegments view.table view.pk)
  return { written view hidden dependents with
    insert := insert
    get := withSelect getBase (Selection.sql view selection false)
    getBase := getBase
    list := withSelect listBase (Selection.sql view selection true)
    listBase := listBase
    update := update
    delete := delete
    deleteDeep := deleteDeep }

theorem templates_reread (view : TableView) (hidden : Option String)
    (dependents : List Dependent) :
    templates view hidden dependents = rereadTemplates view hidden dependents := by
  unfold templates rereadTemplates
  simp only [reread_eq, getSource_eq, listSource_eq, insertSource_eq, updateSource_eq,
    deleteSource_eq, deleteDeepSource_eq, written]

end RowServe.Statement
