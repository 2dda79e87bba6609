import RowServe.Proofs.Declaration.Plain
import RowServe.Proofs.Request.Selection
import RowServe.Proofs.Resource.Joins
import RowServe.Resource.Command

/-!
# Hidden fields

Fields that are taken as input only, and the projections that read them. A name asks for
a field of the resource itself only if the field is readable. For a linked row no such
question is asked: its key is compared, its lists of fields are shown, and parts of it are
shown by name, whether or not the linked resource shows these columns.

Results:

* `projected_eq`: the projection of a read, by what is shown.
* `shownTo_own`, `shownTo_linked`: what is shown, by what is asked for.
* `reads_hidden_iff`: the projections that read a hidden field.
* `secret_part`: a name that shows a hidden column of a linked row.
-/

namespace RowServe

/-! ## Hidden places -/

/-- The resource takes the values of the column as input only. -/
def Registry.Hides (g : Registry) (resource column : String) : Prop :=
  ∃ l, g.byName? resource = some l ∧
    ∃ f ∈ l.fields, f.decl.loadOnly = true ∧ f.storage = .column ∧ f.name = column

/-- The column of the resource is a document, and a nested extension in it has a field
    whose values are taken as input only. -/
def Registry.HidesInside (g : Registry) (resource column : String) : Prop :=
  ∃ kid ∈ g.resources, kid.extendsOn = some ⟨resource, column⟩ ∧
    ∃ f ∈ kid.fields, f.decl.loadOnly = true ∧ f.storage = .extension column

/-- The resource whose table a resource is stored in. -/
def Resource.ownerName (r : Resource) : String := (r.extendsOn.map (·.parent)).getD r.name

/-- The name is declared more than once, and what it shows is also kept for a hidden field. -/
def Resource.Shadows (r : Resource) (name : String) : Prop :=
  ∃ f ∈ r.fields, f.decl.loadOnly = true ∧
    ∃ x, r.operand? f = some x ∧ (r.field? name).bind r.operand? = some x

namespace Selection

open Sql (Shown)

/-- What a read shows. -/
def shownTo (r : Resource) (selection : Option (List Selected)) (list : Bool) :
    List (String × Shown) :=
  shown r.toTableView (entries r selection) list

/-- What is shown reads a hidden field: one of the resource itself, in a column or under a
    key of a document, or a column of a linked row. -/
inductive ReadsHidden (g : Registry) (r : Resource) : String × Shown → Prop where
  | own {n : String} {x : Sql.Operand} {f : Field} (hf : f ∈ r.fields)
      (hload : f.decl.loadOnly = true) (hx : r.operand? f = some x) :
      ReadsHidden g r (n, .stored x)
  | linked {n key c : String} {columns : List String} {j : Join} (hj : j ∈ r.joins)
      (hc : c ∈ key :: columns) (h : g.Hides j.resource c) :
      ReadsHidden g r (n, .joined j.aliasName key columns)

/-- What is shown reads a whole document with a hidden field in it. -/
inductive ReadsAround (g : Registry) (r : Resource) : String × Shown → Prop where
  | own {n table c : String} (h : g.HidesInside r.ownerName c) :
      ReadsAround g r (n, .stored (.column table c))
  | linked {n key c : String} {columns : List String} {j : Join} (hj : j ∈ r.joins)
      (hc : c ∈ key :: columns) (h : g.HidesInside j.resource c) :
      ReadsAround g r (n, .joined j.aliasName key columns)

/-- A request reaches a column of a linked row: the key of the row, a column that it names,
    or a column that is shown if no column is named. -/
inductive Reaches (r : Resource) (names : Option (List String)) (list : Bool) (j : Join) :
    String → Prop where
  | key {x : RequestedField} (h : Asks r names x) (hx : x.name = j.field) :
      Reaches r names list j j.column
  | part {c : String} (h : Asks r names (.part j.field c)) : Reaches r names list j c
  | whole {c : String} (h : Asks r names (.whole j.field))
      (hnone : ∀ c, ¬ Asks r names (.part j.field c))
      (hc : c ∈ if list then j.listFields else j.getFields) : Reaches r names list j c

variable {ds : Declarations} {g : Registry} {r : Resource}
variable {names : Option (List String)} {selection : Option (List Selected)} {list : Bool}

theorem Reaches.asks {j : Join} {c : String} (h : Reaches r names list j c) :
    ∃ x, Asks r names x ∧ x.name = j.field := by
  cases h with
  | key h hx => exact ⟨_, h, hx⟩
  | part h => exact ⟨_, h, rfl⟩
  | whole h _ _ => exact ⟨_, h, rfl⟩

/-! ## What is shown -/

/-- The projection of a read, by what is shown. -/
theorem projected_eq (hg : ds.resolve = .ok g) (hr : r ∈ g.resources)
    (selection : Option (List Selected)) (list : Bool) :
    (r.projected list selection).1 =
      Statement.withSelect (if list then r.templates.listBase else r.templates.getBase)
        (Sql.projection (shownTo r selection list)) := by
  cases selection with
  | some selection => cases list <;> rfl
  | none =>
    obtain ⟨d, _, hd⟩ := Compile.mem_resolved hg hr
    obtain ⟨p, templates, _, ht, rfl⟩ := Compile.resource_ok_iff.mp hd
    have hmade := Statement.templates_ok_iff.mp ht
    cases list with
    | false => exact hmade.get
    | true => exact hmade.list

/-- The columns of a linked row that an entry shows, and its key, are those reached. -/
theorem entry_reaches (hs : Chosen r names selection) {s : Selected}
    (hmem : s ∈ entries r selection) {j : Join} (hname : j.field = s.name) (c : String) :
    c ∈ j.column :: s.sub.getD (if list then j.listFields else j.getFields) ↔
      Reaches r names list j c := by
  obtain ⟨⟨x, hx, hxname⟩, hparts, hnarrowed⟩ := hs.entry hmem
  rw [← hname] at hxname hparts
  rw [List.mem_cons]
  cases hsub : s.sub with
  | none =>
    rw [hsub] at hparts
    have hnone : ∀ c, ¬ Asks r names (.part j.field c) := fun c h =>
      absurd ((hparts c).mpr h) List.not_mem_nil
    have hwhole : Asks r names (.whole j.field) := by
      cases x with
      | whole n => exact hxname ▸ hx
      | part n c => exact absurd (hxname ▸ hx) (hnone c)
    constructor
    · rintro (rfl | hc)
      · exact .key hx hxname
      · exact .whole hwhole hnone hc
    · rintro (_ | h | ⟨_, _, hc⟩)
      · exact .inl rfl
      · exact absurd h (hnone c)
      · exact .inr hc
  | some subs =>
    rw [hsub] at hparts hnarrowed
    constructor
    · rintro (rfl | hc)
      · exact .key hx hxname
      · exact .part ((hparts c).mp hc)
    · rintro (_ | h | ⟨_, hnone, _⟩)
      · exact .inl rfl
      · exact .inr ((hparts c).mpr h)
      · obtain ⟨b, hb⟩ := List.exists_mem_of_ne_nil subs fun h => hnarrowed (congrArg some h)
        exact absurd ((hparts b).mp hb) (hnone b)

theorem shown?_own (list : Bool) (hg : ds.resolve = .ok g) (hr : r ∈ g.resources) {s : Selected}
    (hjoin : r.join? s.name = none) :
    shown? r.toTableView list s =
      ((r.field? s.name).bind r.operand?).map fun x => (s.name, .stored x) := by
  unfold shown?
  cases hf : r.field? s.name with
  | none => rfl
  | some f =>
    dsimp only
    rw [Compile.joinOf?_eq hg hr hf, hjoin]
    rfl

theorem shown?_linked (list : Bool) (hg : ds.resolve = .ok g) (hr : r ∈ g.resources)
    {s : Selected} {j : Join} (hj : j ∈ r.joins) (hname : j.field = s.name) :
    shown? r.toTableView list s =
      some (s.name, .joined j.aliasName j.column
        (s.sub.getD (if list then j.listFields else j.getFields))) := by
  obtain ⟨f, hf, _, _⟩ := Compile.join_field hg hr hj
  have hjoin := Compile.join?_of_mem hg hr hj
  rw [hname] at hf hjoin
  unfold shown?
  rw [hf]
  dsimp only
  rw [Compile.joinOf?_eq hg hr hf, hjoin]

/-- Fields of the resource itself are shown if they are asked for as a whole. -/
theorem shownTo_own (hg : ds.resolve = .ok g) (hr : r ∈ g.resources)
    (hs : Chosen r names selection) (n : String) (x : Sql.Operand) :
    (n, .stored x) ∈ shownTo r selection list ↔
      Asks r names (.whole n) ∧ r.join? n = none ∧ (r.field? n).bind r.operand? = some x := by
  unfold shownTo shown
  rw [List.mem_filterMap]
  constructor
  · rintro ⟨s, hmem, hshown⟩
    obtain ⟨⟨y, hy, hyname⟩, _, _⟩ := hs.entry hmem
    cases hjoin : r.join? s.name with
    | some j =>
      obtain ⟨hj, hfield⟩ := Compile.join?_some hjoin
      rw [shown?_linked list hg hr hj hfield] at hshown
      simp at hshown
    | none =>
      rw [shown?_own list hg hr hjoin] at hshown
      obtain ⟨x', hx', he⟩ := Option.map_eq_some_iff.mp hshown
      obtain ⟨rfl, hx⟩ := Prod.mk.inj he
      obtain rfl := Shown.stored.inj hx
      refine ⟨?_, hjoin, hx'⟩
      cases y with
      | whole n => exact hyname ▸ hy
      | part n c =>
        obtain ⟨j, hj, _⟩ := asks_part hy
        have hyname : n = s.name := hyname
        rw [hyname, hjoin] at hj
        contradiction
  · rintro ⟨hasks, hjoin, hx⟩
    obtain ⟨s, hmem, hname⟩ := hs.exists_entry hasks
    have hname : s.name = n := hname
    subst hname
    refine ⟨s, hmem, ?_⟩
    rw [shown?_own list hg hr hjoin, hx]
    rfl

/-- Linked rows are shown with their key and the columns that are reached. -/
theorem shownTo_linked (hg : ds.resolve = .ok g) (hr : r ∈ g.resources)
    (hs : Chosen r names selection) {n source key : String} {columns : List String}
    (h : (n, .joined source key columns) ∈ shownTo r selection list) :
    ∃ j ∈ r.joins, n = j.field ∧ source = j.aliasName ∧
      ∀ c, c ∈ key :: columns ↔ Reaches r names list j c := by
  obtain ⟨s, hmem, hshown⟩ := List.mem_filterMap.mp h
  cases hjoin : r.join? s.name with
  | none =>
    rw [shown?_own list hg hr hjoin] at hshown
    obtain ⟨x, _, he⟩ := Option.map_eq_some_iff.mp hshown
    exact absurd (Prod.mk.inj he).2 (by simp)
  | some j =>
    obtain ⟨hj, hfield⟩ := Compile.join?_some hjoin
    rw [shown?_linked list hg hr hj hfield] at hshown
    obtain ⟨rfl, he⟩ := Prod.mk.inj (Option.some.inj hshown)
    obtain ⟨rfl, rfl, rfl⟩ := Shown.joined.inj he
    exact ⟨j, hj, hfield.symm, rfl, entry_reaches hs hmem hfield⟩

/-- What is reached of a linked row is shown. -/
theorem exists_shownTo (hg : ds.resolve = .ok g) (hr : r ∈ g.resources)
    (hs : Chosen r names selection) {j : Join} (hj : j ∈ r.joins) {c : String}
    (hc : Reaches r names list j c) :
    ∃ columns, (j.field, .joined j.aliasName j.column columns) ∈ shownTo r selection list ∧
      c ∈ j.column :: columns := by
  obtain ⟨x, hx, hname⟩ := hc.asks
  obtain ⟨s, hmem, hsname⟩ := hs.exists_entry hx
  have hfield : j.field = s.name := (hsname.trans hname).symm
  have hshown := shown?_linked list hg hr hj hfield
  rw [← hfield] at hshown
  exact ⟨_, List.mem_filterMap.mpr ⟨s, hmem, hshown⟩, (entry_reaches hs hmem hfield c).mpr hc⟩

/-! ## Hidden fields that are read -/

theorem operand?_name {view : TableView} {f f' : Field} {x : Sql.Operand}
    (h : view.operand? f = some x) (h' : view.operand? f' = some x) : f.name = f'.name := by
  rw [← h'] at h
  unfold TableView.operand? at h h'
  cases hf : f.storage <;> cases hf' : f'.storage <;> simp_all

theorem operand?_column {view : TableView} {f : Field} {table column : String}
    (h : view.operand? f = some (.column table column)) :
    column = f.name ∧ table = view.table := by
  unfold TableView.operand? at h
  cases hf : f.storage <;> simp_all

/-- If every name is declared once, no field of the resource itself shows a hidden one. -/
theorem shadows_twice {n : String} (hasks : Asks r names (.whole n)) (h : r.Shadows n) :
    ¬ (r.fields.map (·.name)).Nodup := by
  intro hnodup
  obtain ⟨f, hf, hload, x, hx, hfirst⟩ := h
  obtain ⟨f₀, hf₀, hx₀⟩ := Option.bind_eq_some_iff.mp hfirst
  obtain ⟨f', hf', hname, hreadable⟩ := asks_whole hasks
  have hsame : f.name = f'.name :=
    (operand?_name hx hx₀).trans ((TableView.field?_name hf₀).trans hname.symm)
  obtain rfl := List.inj_on_of_nodup_map hnodup hf hf' hsame
  unfold Field.isReadable at hreadable
  simp [hload] at hreadable

/-- Some column of a linked row with a property is shown exactly if one is reached. -/
theorem exists_linked_iff (hg : ds.resolve = .ok g) (hr : r ∈ g.resources)
    (hs : Chosen r names selection) (P : Join → String → Prop) :
    (∃ n j key columns c, (n, .joined j.aliasName key columns) ∈ shownTo r selection list ∧
        j ∈ r.joins ∧ c ∈ key :: columns ∧ P j c) ↔
      ∃ j ∈ r.joins, ∃ c, Reaches r names list j c ∧ P j c := by
  constructor
  · rintro ⟨n, j, key, columns, c, hmem, hj, hc, hP⟩
    obtain ⟨i, hi, _, halias, hreach⟩ := shownTo_linked hg hr hs hmem
    obtain rfl := Compile.join_unique hg hr hj hi (Join.aliasName_inj halias)
    exact ⟨j, hj, c, (hreach c).mp hc, hP⟩
  · rintro ⟨j, hj, c, hc, hP⟩
    obtain ⟨columns, hmem, hcolumn⟩ := exists_shownTo hg hr hs hj hc
    exact ⟨j.field, j, j.column, columns, c, hmem, hj, hcolumn, hP⟩

/-- When a projection reads a hidden field. Fields of the resource itself are only read if
    a readable field has the same name; of a linked row all that is reached is read. -/
theorem reads_hidden_iff (hg : ds.resolve = .ok g) (hr : r ∈ g.resources)
    (hs : Chosen r names selection) (list : Bool) :
    (r.projected list selection).1 =
        Statement.withSelect (if list then r.templates.listBase else r.templates.getBase)
          (Sql.projection (shownTo r selection list)) ∧
      ((∃ e ∈ shownTo r selection list, ReadsHidden g r e) ↔
        (∃ n, Asks r names (.whole n) ∧ r.join? n = none ∧ r.Shadows n) ∨
          ∃ j ∈ r.joins, ∃ c, Reaches r names list j c ∧ g.Hides j.resource c) ∧
      ((∃ e ∈ shownTo r selection list, ReadsAround g r e) ↔
        (∃ n, Asks r names (.whole n) ∧ r.join? n = none ∧
            (r.field? n).bind r.operand? = some (.column r.table n) ∧
            g.HidesInside r.ownerName n) ∨
          ∃ j ∈ r.joins, ∃ c, Reaches r names list j c ∧ g.HidesInside j.resource c) ∧
      ((r.fields.map (·.name)).Nodup → ∀ n, Asks r names (.whole n) → ¬ r.Shadows n) := by
  refine ⟨projected_eq hg hr selection list, ?_, ?_,
    fun hnodup n hasks hshadows => shadows_twice hasks hshadows hnodup⟩
  · rw [← exists_linked_iff hg hr hs fun j c => g.Hides j.resource c]
    constructor
    · rintro ⟨e, hmem, @⟨n, x, f, hf, hload, hx⟩ | @⟨n, key, c, columns, j, hj, hc, h⟩⟩
      · obtain ⟨hasks, hjoin, hfirst⟩ := (shownTo_own hg hr hs n x).mp hmem
        exact .inl ⟨n, hasks, hjoin, f, hf, hload, x, hx, hfirst⟩
      · exact .inr ⟨n, j, key, columns, c, hmem, hj, hc, h⟩
    · rintro (⟨n, hasks, hjoin, f, hf, hload, x, hx, hfirst⟩ |
        ⟨n, j, key, columns, c, hmem, hj, hc, h⟩)
      · exact ⟨_, (shownTo_own hg hr hs n x).mpr ⟨hasks, hjoin, hfirst⟩, .own hf hload hx⟩
      · exact ⟨_, hmem, .linked hj hc h⟩
  · rw [← exists_linked_iff hg hr hs fun j c => g.HidesInside j.resource c]
    constructor
    · rintro ⟨e, hmem, @⟨n, table, c, h⟩ | @⟨n, key, c, columns, j, hj, hc, h⟩⟩
      · obtain ⟨hasks, hjoin, hfirst⟩ := (shownTo_own hg hr hs n _).mp hmem
        obtain ⟨f, hf, hx⟩ := Option.bind_eq_some_iff.mp hfirst
        obtain ⟨rfl, rfl⟩ := operand?_column hx
        rw [TableView.field?_name hf] at hfirst h
        exact .inl ⟨n, hasks, hjoin, hfirst, h⟩
      · exact .inr ⟨n, j, key, columns, c, hmem, hj, hc, h⟩
    · rintro (⟨n, hasks, hjoin, hfirst, h⟩ | ⟨n, j, key, columns, c, hmem, hj, hc, h⟩)
      · exact ⟨_, (shownTo_own hg hr hs n _).mpr ⟨hasks, hjoin, hfirst⟩, .own h⟩
      · exact ⟨_, hmem, .linked hj hc h⟩

/-- Producers with a column that is never shown, and products that refer to them. -/
def vault : Declarations :=
  [.plain "Producer" "producer"
    [.key "id", { FieldDecl.plain "secret" .string (some (.simple "text")) with loadOnly := true }],
    { ResourceDecl.plain "Product" "product" [.key "id", .link "producer" "producer.id"] with
      info := { ResourceMeta.plain with
        route := some "product"
        getBy := some ["id", "producer"] } }]

theorem reads_hidden_vault :
    ∃ g, vault.resolve = .ok g ∧ ∃ r ∈ g.resources, ∃ selection,
      parse r ["id"] = .ok selection ∧ shownTo r (some selection) false ≠ [] ∧
      ¬ ∃ e ∈ shownTo r (some selection) false, ReadsHidden g r e := by
  obtain ⟨g, hg, r, hr, hP⟩ := Compile.exists_resolved vault
    (fun r => (parse r ["id"]).toOption = some [⟨"id", none⟩] ∧
      shownTo r (some [⟨"id", none⟩]) false ≠ [] ∧ requested? r "id" = some (.whole "id") ∧
      r.joins.map (·.field) = ["producer"] ∧ (r.fields.map (·.name)).Nodup)
    (by decide +kernel) (by decide +kernel)
  obtain ⟨hparse, hshown, hrequested, hjoins, hnodup⟩ := of_decide_eq_true hP
  have hok := toOption_eq_some.mp hparse
  obtain ⟨_, hreads, _, hshadows⟩ := reads_hidden_iff hg hr (.parsed hok) false
  refine ⟨g, hg, r, hr, _, hok, hshown, fun h => ?_⟩
  rcases hreads.mp h with ⟨n, hasks, _, hn⟩ | ⟨j, hj, c, hreach, _⟩
  · exact hshadows hnodup n hasks hn
  · obtain ⟨x, ⟨n, hn, hx⟩, hname⟩ := hreach.asks
    rw [List.mem_singleton.mp hn, hrequested] at hx
    rw [← Option.some.inj hx] at hname
    have hfield := List.mem_map_of_mem (f := (·.field)) hj
    rw [hjoins, ← hname] at hfield
    exact absurd hfield (by decide)

/-! ## A name for a hidden column -/

/-- The statement that shows the secret of the producer of a product. -/
def vaultText : String :=
  "SELECT json_build_object('producer', CASE WHEN \"j_producer\".\"id\" IS NULL THEN NULL " ++
    "ELSE json_build_object('secret', \"j_producer\".\"secret\") END) AS \"inner\" " ++
    "FROM \"product\" LEFT JOIN \"producer\" AS \"j_producer\" " ++
    "ON \"j_producer\".\"id\" = \"product\".\"producer\" " ++
    "WHERE \"product\".\"id\" = $1::int LIMIT 1"

/-- The secret of a producer is asked for through a product: the name is taken, because
    the column has a cast, and the secret is shown. -/
theorem secret_part :
    ∃ g, vault.resolve = .ok g ∧ g.Hides "Producer" "secret" ∧ ∃ r ∈ g.resources, ∃ selection,
      parse r ["producer.secret"] = .ok selection ∧
      (∃ e ∈ shownTo r (some selection) false, ReadsHidden g r e) ∧
      ∃ cmd, r.getCommand [("id", .ofInt 1)] (some selection) = .ok cmd ∧
        cmd.text = vaultText := by
  obtain ⟨g, hg, l, hl, hQ⟩ := Compile.exists_resolved vault
    (fun l => l.name = "Producer" ∧
      ∃ f ∈ l.fields, f.decl.loadOnly = true ∧ f.storage = .column ∧ f.name = "secret")
    (by decide +kernel) (by decide +kernel)
  obtain ⟨g', hg', r, hr, hP⟩ := Compile.exists_resolved vault
    (fun r => (parse r ["producer.secret"]).toOption = some [⟨"producer", some ["secret"]⟩] ∧
      ("producer", .joined "j_producer" "id" ["secret"]) ∈
        shownTo r (some [⟨"producer", some ["secret"]⟩]) false ∧
      (∃ j ∈ r.joins, j.resource = "Producer" ∧ j.aliasName = "j_producer") ∧
      (r.getCommand [("id", .ofInt 1)] (some [⟨"producer", some ["secret"]⟩])).toOption.map
        (·.text) = some vaultText)
    (by decide +kernel) (by decide +kernel)
  obtain rfl := Except.ok.inj (hg.symm.trans hg')
  obtain ⟨hname, hsecret⟩ := of_decide_eq_true hQ
  obtain ⟨hparse, hshown, ⟨j, hj, hresource, halias⟩, hcmd⟩ := of_decide_eq_true hP
  obtain ⟨cmd, hcmd, htext⟩ := Option.map_eq_some_iff.mp hcmd
  have hhides : g.Hides "Producer" "secret" :=
    ⟨l, hname ▸ Compile.byName?_of_mem hg hl, hsecret⟩
  have hreads : ReadsHidden g r ("producer", .joined j.aliasName "id" ["secret"]) :=
    .linked hj (c := "secret") (by simp) (hresource ▸ hhides)
  rw [halias] at hreads
  exact ⟨g, hg, hhides, r, hr, _, toOption_eq_some.mp hparse, ⟨_, hshown, hreads⟩, cmd,
    toOption_eq_some.mp hcmd, htext⟩

end Selection

end RowServe
