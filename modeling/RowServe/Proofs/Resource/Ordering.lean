import Mathlib.Data.List.Forall2
import RowServe.Proofs.Contract.Pages
import RowServe.Proofs.Resource.Slots
import RowServe.Proofs.Sql.SortKeys

/-!
# The order of a list

A list has one clause for its order in two places: where the rows are numbered, and where the
page is cut out of them. The names that a request gives become sort keys of the clause if they
are stored; a name that is not is accepted all the same, and passed over. The direction stands
once, behind the last key, and applies to that key only.

Results:

* `clauseOf_eq_iff`: the sort keys that the clause is the text of, and that there are no others.
* `list_sorted_iff`: when there is an expression for each of the names.
* `list_directed_iff`: when each of them goes in the direction that is asked for.
* `rank_dropped`, `name_ascends`: a list by nothing, and one that goes down in one key only.
-/

namespace RowServe

open Sql (Command Operand)

/-! ## Names that a list may be ordered by -/

namespace Compile

variable {ds : Declarations} {d : ResourceDecl} {r : Resource}

theorem contractsOf_pagination {parent : Option ResourceDecl} {pk : FieldDecl}
    {pkFromSession : Bool} {lists : Lists} {fields : List Field} {linked : List Linked}
    {nested : List (String × Contract)} {cs : Contracts}
    (h : contractsOf d parent pk pkFromSession lists fields linked nested = .ok cs) :
    cs.pagination = ⟨lists.listBy.filter fun n => (fields.find? (·.name = n)).any isSortable,
      [pk.name]⟩ := by
  unfold contractsOf at h
  simp only [bind_eq_ok] at h
  obtain ⟨post, _, get, _, list, _, delete, _, update, _, hrest⟩ := h
  cases parent <;>
    · obtain ⟨child, _, he⟩ := bind_eq_ok.mp hrest
      rw [← Except.ok.inj he]

/-- A page is ordered by the key, or by names of the list of which each is the name of a field
    that may be sorted by. -/
theorem ordered_names (hr : resource ds d = .ok r) {query : Object} {page : PageSpec}
    (h : (r.contracts.pagination.validate query).1 = .ok page) :
    page.orderBy = [r.pk] ∨
      page.orderBy ≠ [] ∧ ∀ n ∈ page.orderBy, n ∈ r.listBy ∧
        ∃ f, r.toTableView.field? n = some f ∧ isSortable f = true := by
  obtain ⟨rfl, _, _, _, hnames, _⟩ := (PaginationContract.validate_ok_iff _ query page).mp h
  obtain ⟨p, templates, hp, _, rfl⟩ := resource_ok_iff.mp hr
  have hpagination : p.contracts.pagination = _ := contractsOf_pagination hp.contracts
  rcases PaginationContract.orderByOf_accepted _ hnames with hdefault | ⟨hne, hallowed⟩
  · exact .inl (hdefault.trans (congrArg PaginationContract.default hpagination))
  · refine .inr ⟨hne, fun n hn => ?_⟩
    have hmem := congrArg PaginationContract.allowed hpagination ▸ hallowed n hn
    obtain ⟨hlist, hsortable⟩ := List.mem_filter.mp hmem
    obtain ⟨f, hf, hsorts⟩ := (Option.any_eq_true _ _).mp hsortable
    exact ⟨hlist, f, hf, hsorts⟩

end Compile

namespace Resource

variable {ds : Declarations} {g : Registry} {r : Resource} {filter query : Object}
  {page : PageSpec} {selection : Option (List Selected)} {cmd : Command}

/-! ## The clause -/

/-- The clause of a page, as it is filled in. -/
def clauseOf (r : Resource) (page : PageSpec) : String :=
  "ORDER BY " ++ (Selection.orderBy r.toTableView page.orderBy ++ (" " ++ page.orderDir.sql))

/-- Both the window that numbers the rows and the page of them have this clause. -/
def OrderedBy (r : Resource) (selection : Option (List Selected)) (page : PageSpec)
    (text clause : String) : Prop :=
  ∃ middle back, text =
    Statement.listHead ++ Sql.projection (Selection.shownTo r selection true) ++
      " AS \"inner\", row_number() OVER (" ++ clause ++ ") AS rn FROM " ++ middle ++ " " ++
      clause ++ " LIMIT " ++ page.limit.repr ++ " OFFSET " ++ page.offset.repr ++ back

theorem list_ordered (hg : ds.resolve = .ok g) (hr : r ∈ g.resources)
    (h : (r.list filter page selection).Performs (StoreAction.run cmd)) :
    r.OrderedBy selection page cmd.text (r.clauseOf page) := by
  have hcommand :=
    (listCommand_staged hg hr filter page selection).symm.trans (list_performs.mp h)
  rw [OrderedBy, Sql.Template.render_eq (complete_ok hcommand).1]
  exact (Compile.templates_made hg hr).list_clauses _

/-! ## Sort keys of names -/

/-- The column or the key of a document in which the field of a name is kept. -/
inductive SortsBy (r : Resource) : String → Operand → Prop where
  | column {n : String} {f : Field} (hf : r.toTableView.field? n = some f)
      (hs : f.storage = .column) : SortsBy r n (.column r.table n)
  | key {n c : String} {f : Field} (hf : r.toTableView.field? n = some f)
      (hs : f.storage = .extension c) : SortsBy r n (.key r.table c n)

/-- The first field of the name is kept in the table. -/
def Stored (r : Resource) (n : String) : Prop :=
  ∃ f, r.toTableView.field? n = some f ∧ f.storage ≠ .virtual

/-- Where a name is read. -/
def operandOf? (r : Resource) (n : String) : Option Operand :=
  (r.toTableView.field? n).bind r.toTableView.operand?

theorem sortsBy_iff (r : Resource) (n : String) (x : Operand) :
    r.SortsBy n x ↔ r.operandOf? n = some x := by
  unfold operandOf?
  constructor
  · intro h
    cases h with
    | column hf hs => simp [hf, TableView.operand?, hs, TableView.field?_name hf]
    | key hf hs => simp [hf, TableView.operand?, hs, TableView.field?_name hf]
  · intro h
    obtain ⟨f, hf, hx⟩ := Option.bind_eq_some_iff.mp h
    unfold TableView.operand? at hx
    split at hx
    · rename_i hs
      rw [← Option.some.inj hx, TableView.field?_name hf]
      exact .column hf hs
    · rename_i c hs
      rw [← Option.some.inj hx, TableView.field?_name hf]
      exact .key hf hs
    · contradiction

theorem stored_iff_sortsBy (r : Resource) (n : String) : r.Stored n ↔ ∃ x, r.SortsBy n x := by
  constructor
  · rintro ⟨f, hf, hs⟩
    cases hstorage : f.storage with
    | column => exact ⟨_, .column hf hstorage⟩
    | extension c => exact ⟨_, .key hf hstorage⟩
    | virtual => exact absurd hstorage hs
  · rintro ⟨x, h⟩
    cases h with
    | column hf hs => exact ⟨_, hf, by rw [hs]; simp⟩
    | key hf hs => exact ⟨_, hf, by rw [hs]; simp⟩

/-- The expressions of names: those of them that are stored, the others are passed over. -/
def operandsOf (r : Resource) (names : List String) : List Operand := names.filterMap r.operandOf?

theorem clauseOf_eq (r : Resource) (page : PageSpec) :
    r.clauseOf page = "ORDER BY " ++
      (", ".intercalate ((r.operandsOf page.orderBy).map Operand.render) ++
        (" " ++ page.orderDir.sql)) := by
  unfold clauseOf Selection.orderBy operandsOf operandOf?
  rw [List.filterMap_filterMap]

/-- Names that are all stored are paired with their expressions. -/
theorem sortsBy_all_iff (r : Resource) (names : List String) (operands : List Operand) :
    List.Forall₂ r.SortsBy names operands ↔
      r.operandsOf names = operands ∧ ∀ n ∈ names, r.Stored n := by
  constructor
  · intro h
    induction h with
    | nil => exact ⟨rfl, fun n hn => by contradiction⟩
    | @cons n x names operands hx _ ih =>
      refine ⟨?_, List.forall_mem_cons.mpr ⟨(stored_iff_sortsBy r n).mpr ⟨x, hx⟩, ih.2⟩⟩
      unfold operandsOf
      rw [List.filterMap_cons, (sortsBy_iff r n x).mp hx]
      exact congrArg (x :: ·) ih.1
  · rintro ⟨rfl, h⟩
    induction names with
    | nil => exact .nil
    | cons n names ih =>
      obtain ⟨hn, hnames⟩ := List.forall_mem_cons.mp h
      obtain ⟨x, hx⟩ := (stored_iff_sortsBy r n).mp hn
      unfold operandsOf
      rw [List.filterMap_cons, (sortsBy_iff r n x).mp hx]
      exact .cons hx (ih hnames)

theorem operandsOf_eq_nil_iff (r : Resource) (names : List String) :
    r.operandsOf names = [] ↔ ∀ n ∈ names, ¬ r.Stored n := by
  unfold operandsOf
  rw [List.filterMap_eq_nil_iff]
  refine forall₂_congr fun n _ => ?_
  rw [stored_iff_sortsBy, Option.eq_none_iff_forall_ne_some, not_exists]
  exact forall_congr' fun x => not_congr (sortsBy_iff r n x).symm

/-- The clause is one of sort keys if something is left to sort by: the stored names are its
    keys, and the last of them has the direction. -/
theorem clauseOf_eq_iff (r : Resource) (page : PageSpec) (keys : List Sql.SortKey) :
    r.clauseOf page = Sql.orderClause keys ↔
      r.operandsOf page.orderBy ≠ [] ∧
        keys = Sql.keysOf page.orderDir (r.operandsOf page.orderBy) := by
  rw [clauseOf_eq]
  cases hoperands : r.operandsOf page.orderBy with
  | nil =>
    refine ⟨fun h => ?_, fun h => absurd rfl h.1⟩
    have hlist : " " ++ page.orderDir.sql = Sql.sortList keys := by
      have hcut := (String.append_right_inj _).mp h
      rwa [List.map_nil, String.intercalate_nil, String.empty_append] at hcut
    exact absurd hlist.symm (Sql.sortList_ne_direction page.orderDir keys)
  | cons x operands =>
    have hne : x :: operands ≠ [] := List.cons_ne_nil x operands
    have hclause : "ORDER BY " ++ (", ".intercalate ((x :: operands).map Operand.render) ++
        (" " ++ page.orderDir.sql)) =
          Sql.orderClause (Sql.keysOf page.orderDir (x :: operands)) := by
      rw [Sql.orderClause, Sql.sortList_keysOf page.orderDir hne, String.append_assoc]
    rw [hclause]
    exact ⟨fun h => ⟨hne, (Sql.orderClause_inj h).symm⟩, fun h => by rw [h.2]⟩

/-- Sort keys for all names: there are some if all of the names are stored. -/
theorem exists_keys_iff (hne : page.orderBy ≠ []) (P : Sql.SortKey → Prop) :
    (∃ keys, r.clauseOf page = Sql.orderClause keys ∧
        List.Forall₂ (fun n k => r.SortsBy n k.operand ∧ P k) page.orderBy keys) ↔
      (∀ n ∈ page.orderBy, r.Stored n) ∧
        ∀ k ∈ Sql.keysOf page.orderDir (r.operandsOf page.orderBy), P k := by
  have hsplit (keys : List Sql.SortKey) :
      List.Forall₂ (fun n k => r.SortsBy n k.operand ∧ P k) page.orderBy keys ↔
        List.Forall₂ r.SortsBy page.orderBy (keys.map Sql.SortKey.operand) ∧ ∀ k ∈ keys, P k := by
    rw [List.forall₂_map_right_iff]
    refine ⟨fun h => ⟨h.imp fun _ _ hk => hk.1, fun k hk => ?_⟩, fun h => ?_⟩
    · obtain ⟨_, _, hP⟩ := partner_of_mem h hk
      exact hP.2
    · have hflip := (List.forall₂_and_left _ _).mpr ⟨h.2, h.1.flip⟩
      exact hflip.flip.imp fun _ _ hk => ⟨hk.2, hk.1⟩
  constructor
  · rintro ⟨keys, hclause, hkeys⟩
    obtain ⟨_, rfl⟩ := (clauseOf_eq_iff r page keys).mp hclause
    obtain ⟨hoperands, hP⟩ := (hsplit _).mp hkeys
    exact ⟨((sortsBy_all_iff r _ _).mp hoperands).2, hP⟩
  · rintro ⟨hstored, hP⟩
    have hsome : r.operandsOf page.orderBy ≠ [] := by
      rw [Ne, operandsOf_eq_nil_iff]
      intro hnone
      obtain ⟨n, hn⟩ := List.exists_mem_of_ne_nil _ hne
      exact hnone n hn (hstored n hn)
    refine ⟨_, (clauseOf_eq_iff r page _).mpr ⟨hsome, rfl⟩, (hsplit _).mpr ⟨?_, hP⟩⟩
    rw [Sql.operands_keysOf]
    exact (sortsBy_all_iff r _ _).mpr ⟨rfl, hstored⟩

/-! ## Names and directions -/

theorem orderBy_ne_nil (hg : ds.resolve = .ok g) (hr : r ∈ g.resources)
    (hpage : (r.contracts.pagination.validate query).1 = .ok page) : page.orderBy ≠ [] := by
  obtain ⟨d, _, hd⟩ := Compile.mem_resolved hg hr
  rcases Compile.ordered_names hd hpage with hkey | ⟨hne, _⟩
  · rw [hkey]
    exact List.cons_ne_nil _ _
  · exact hne

/-- The clause of a page, which stands in both its places, has one expression for each name, in
    the order of the names and read where its field is kept, exactly if all of the names are
    stored. It has no expression at all exactly if none of them is. -/
theorem list_sorted_iff (hg : ds.resolve = .ok g) (hr : r ∈ g.resources)
    (hpage : (r.contracts.pagination.validate query).1 = .ok page)
    (h : (r.list filter page selection).Performs (StoreAction.run cmd)) :
    page.orderBy ≠ [] ∧ r.OrderedBy selection page cmd.text (r.clauseOf page) ∧
    ((∃ keys, r.clauseOf page = Sql.orderClause keys ∧
        List.Forall₂ (fun n k => r.SortsBy n k.operand) page.orderBy keys) ↔
      ∀ n ∈ page.orderBy, r.Stored n) ∧
    ((∀ keys, r.clauseOf page ≠ Sql.orderClause keys) ↔ ∀ n ∈ page.orderBy, ¬ r.Stored n) := by
  have hne := orderBy_ne_nil hg hr hpage
  refine ⟨hne, list_ordered hg hr h, ?_, ?_⟩
  · simpa using exists_keys_iff hne fun _ => True
  · rw [← operandsOf_eq_nil_iff]
    constructor
    · intro hnone
      by_contra hsome
      exact hnone _ ((clauseOf_eq_iff r page _).mpr ⟨hsome, rfl⟩)
    · exact fun hnil keys hclause => ((clauseOf_eq_iff r page keys).mp hclause).1 hnil

/-- Products with a rank that is not stored, though a list may be ordered by it. -/
def ranked : Declarations :=
  [{ ResourceDecl.plain "Product" "product"
      [.key "id", .plain "name" .string (some (.simple "text")), .plain "rank" .integer none] with
    info := { ResourceMeta.plain with
      route := some "product"
      listBy := some ["id", "name", "rank"] } }]

/-- The statement of the first page of products, with an order. -/
def rankedList (order : String) : String :=
  "SELECT json_build_object('data', COALESCE((SELECT json_agg(page.\"inner\" ORDER BY page.rn) " ++
    "FROM (SELECT json_build_object('id', \"product\".\"id\", 'name', \"product\".\"name\") " ++
    "AS \"inner\", row_number() OVER (" ++ order ++ ") AS rn FROM \"product\"  WHERE 1=1 " ++
    order ++ " LIMIT 100 OFFSET 0) page), '[]'::json), 'total_count', (SELECT count(*) " ++
    "FROM \"product\"  WHERE 1=1)) AS \"outer\""

/-- Products are listed on the page that is asked for, and everything but their rank is stored. -/
theorem ranked_listed (query : Object) (page : PageSpec) (order : String)
    (h : (Compile.writtenResources ranked).toOption.any (·.any fun r =>
      (r.contracts.pagination.validate query).1.toOption = some page ∧
      (r.listCommand [] page none).toOption = some ⟨rankedList order, []⟩ ∧
      ∀ n ∈ page.orderBy, r.operandOf? n =
        if n = "rank" then none else some (.column "product" n)) = true) :
    ∃ g, ranked.resolve = .ok g ∧ ∃ r ∈ g.resources,
      (r.contracts.pagination.validate query).1 = .ok page ∧
      (r.list [] page none).Performs (StoreAction.run ⟨rankedList order, []⟩) ∧
      ∀ n ∈ page.orderBy, r.Stored n ↔ n ≠ "rank" := by
  obtain ⟨g, hg, r, hr, hP⟩ := Compile.exists_resolved ranked _ (by decide +kernel) h
  obtain ⟨hpage, hcommand, hoperands⟩ := of_decide_eq_true hP
  refine ⟨g, hg, r, hr, toOption_eq_some.mp hpage,
    list_performs.mpr (toOption_eq_some.mp hcommand), fun n hn => ?_⟩
  simp only [stored_iff_sortsBy, sortsBy_iff, hoperands n hn]
  split_ifs with hrank
  · simp [hrank]
  · simp [hrank]

/-- A list by name and key has an expression for each. -/
theorem named_sorted :
    ∃ g, ranked.resolve = .ok g ∧ ∃ r ∈ g.resources, ∃ keys,
      r.clauseOf ⟨1, 100, ["name", "id"], .asc⟩ = Sql.orderClause keys ∧
      List.Forall₂ (fun n k => r.SortsBy n k.operand) ["name", "id"] keys := by
  obtain ⟨g, hg, r, hr, hpage, hlist, hstored⟩ := ranked_listed [("order_by", .str "name,id")]
    ⟨1, 100, ["name", "id"], .asc⟩ "ORDER BY \"product\".\"name\", \"product\".\"id\" ASC"
    (by decide +kernel)
  have hnamed : ∀ n ∈ ["name", "id"], r.Stored n := fun n hn =>
    (hstored n hn).mpr fun hrank => absurd (hrank ▸ hn) (by decide)
  exact ⟨g, hg, r, hr, (list_sorted_iff hg hr hpage hlist).2.2.1.mpr hnamed⟩

/-- A list by the rank alone is accepted, and its clause is not the text of any sort keys. -/
theorem rank_dropped :
    ∃ g, ranked.resolve = .ok g ∧ ∃ r ∈ g.resources, ∃ page,
      (r.contracts.pagination.validate [("order_by", .str "rank")]).1 = .ok page ∧
      page.orderBy = ["rank"] ∧
      (r.list [] page none).Performs (StoreAction.run ⟨rankedList "ORDER BY  ASC", []⟩) ∧
      ∀ keys, Sql.orderClause keys ≠ "ORDER BY  ASC" := by
  obtain ⟨g, hg, r, hr, hpage, hlist, _⟩ := ranked_listed [("order_by", .str "rank")]
    ⟨1, 100, ["rank"], .asc⟩ "ORDER BY  ASC" (by decide +kernel)
  refine ⟨g, hg, r, hr, _, hpage, rfl, hlist, fun keys hclause => ?_⟩
  have hnone : "ORDER BY " ++ Sql.sortList keys = "ORDER BY " ++ (" " ++ OrderDir.asc.sql) :=
    hclause
  exact Sql.sortList_ne_direction .asc keys ((String.append_right_inj _).mp hnone)

/-- The clause of a page, which stands in both its places, sorts by each of the names in the
    direction asked for exactly if all of them are stored, and the direction is the usual one or
    there is only one name. -/
theorem list_directed_iff (hg : ds.resolve = .ok g) (hr : r ∈ g.resources)
    (hpage : (r.contracts.pagination.validate query).1 = .ok page)
    (h : (r.list filter page selection).Performs (StoreAction.run cmd)) :
    r.OrderedBy selection page cmd.text (r.clauseOf page) ∧
    ((∃ keys, r.clauseOf page = Sql.orderClause keys ∧
        List.Forall₂ (fun n k => r.SortsBy n k.operand ∧ k.direction = page.orderDir)
          page.orderBy keys) ↔
      (∀ n ∈ page.orderBy, r.Stored n) ∧ (page.orderDir = .asc ∨ page.orderBy.length = 1)) := by
  have hne := orderBy_ne_nil hg hr hpage
  refine ⟨list_ordered hg hr h, (exists_keys_iff hne _).trans (and_congr_right fun hstored => ?_)⟩
  have hoperands := (sortsBy_all_iff r _ _).mpr ⟨rfl, hstored⟩
  have hlength := hoperands.length_eq
  rw [hlength]
  refine Sql.directions_keysOf page.orderDir fun hnil => ?_
  rw [hnil] at hlength
  exact hne (List.length_eq_zero_iff.mp hlength)

/-- A list by name and key goes up in both. -/
theorem named_directed :
    ∃ g, ranked.resolve = .ok g ∧ ∃ r ∈ g.resources, ∃ keys,
      r.clauseOf ⟨1, 100, ["name", "id"], .asc⟩ = Sql.orderClause keys ∧
      List.Forall₂ (fun n k => r.SortsBy n k.operand ∧ k.direction = .asc) ["name", "id"] keys := by
  obtain ⟨g, hg, r, hr, hpage, hlist, hstored⟩ := ranked_listed [("order_by", .str "name,id")]
    ⟨1, 100, ["name", "id"], .asc⟩ "ORDER BY \"product\".\"name\", \"product\".\"id\" ASC"
    (by decide +kernel)
  have hnamed : ∀ n ∈ ["name", "id"], r.Stored n := fun n hn =>
    (hstored n hn).mpr fun hrank => absurd (hrank ▸ hn) (by decide)
  exact ⟨g, hg, r, hr, (list_directed_iff hg hr hpage hlist).2.mpr ⟨hnamed, .inl rfl⟩⟩

/-- A list that is to go down by name and key goes up by name: these are the only keys that the
    clause is the text of. -/
theorem name_ascends :
    ∃ g, ranked.resolve = .ok g ∧ ∃ r ∈ g.resources, ∃ page,
      (r.contracts.pagination.validate
        [("order_by", .str "name,id"), ("order_dir", .str "desc")]).1 = .ok page ∧
      page.orderBy = ["name", "id"] ∧ page.orderDir = .desc ∧
      (r.list [] page none).Performs (StoreAction.run
        ⟨rankedList "ORDER BY \"product\".\"name\", \"product\".\"id\" DESC", []⟩) ∧
      ∀ keys, Sql.orderClause keys =
          "ORDER BY \"product\".\"name\", \"product\".\"id\" DESC" →
        keys.map Sql.SortKey.direction = [.asc, .desc] := by
  obtain ⟨g, hg, r, hr, hpage, hlist, _⟩ := ranked_listed
    [("order_by", .str "name,id"), ("order_dir", .str "desc")]
    ⟨1, 100, ["name", "id"], .desc⟩ "ORDER BY \"product\".\"name\", \"product\".\"id\" DESC"
    (by decide +kernel)
  refine ⟨g, hg, r, hr, _, hpage, rfl, rfl, hlist, fun keys hclause => ?_⟩
  have hkeys : keys = [⟨.column "product" "name", none⟩, ⟨.column "product" "id", some .desc⟩] :=
    Sql.orderClause_inj (hclause.trans (by decide))
  rw [hkeys]
  rfl

end Resource

end RowServe
