import RowServe.Proofs.Resource.Writes
import RowServe.Proofs.Service.Order

/-!
# Read-only fields in requests that write

A payload is checked by the fields that are declared writable. An object within it, for
the column of a nested extension, is checked by all fields that the extension adds. So
the name of a read-only field is refused, but as a key of that object it is taken.

Results:

* `serve_binds`: the parameters of a statement that writes.
* `bound_object`: an object for a column is bound with all its keys.
* `read_only_bound_iff`: when a value for a read-only field is bound.
* `read_only_key`: a read-only field that is written through the parent.
-/

namespace RowServe

open RowServe.Filter (bindAll filterUses)

/-! ## Spots of fields -/

/-- A spot of a row: a column, or a key of the document in a column. -/
inductive Spot where
  | column (name : String)
  | key (column name : String)

namespace Declarations

variable (ds : Declarations) (d : ResourceDecl)

/-- The fields declared for a resource and for the owner of its table. -/
def declared : List FieldDecl := (ds.owner d).fields ++ d.fields

/-- A field of the spot is declared read-only. The keys of a document are the fields that
    a nested extension adds. -/
def ReadOnly : Spot → Prop
  | .column c => ∃ f ∈ ds.declared d, f.name = c ∧ f.readOnly = true
  | .key c k =>
    ∃ kid ∈ ds, kid.info.extendsOn = some ⟨(ds.owner d).name, c⟩ ∧
      ∃ f ∈ Compile.ownFields kid (ds.owner d), f.name = k ∧ f.readOnly = true

/-- A name is declared read-only, and again without. -/
def Ambiguous (n : String) : Prop :=
  (∃ f ∈ ds.declared d, f.name = n ∧ f.readOnly = true) ∧
    ∃ f ∈ ds.declared d, f.name = n ∧ f.readOnly = false

end Declarations

namespace Resource

variable (r : Resource)

/-- The spot of the field of a name. -/
def spot (n : String) : Spot :=
  match r.kidColumn with
  | some c => if r.isChildField n then .key c n else .column n
  | none => .column n

/-- A payload gives a value for the field of a spot: under the name of the field, or in an
    object for the column of another extension. -/
def Gives (given : Object) (spot : Spot) : Prop :=
  (∃ n, spot = r.spot n ∧ Keyed.has n given = true) ∨
    ∃ (c k : String) (entries : Object), spot = .key c k ∧ r.kidColumn ≠ some c ∧
      given.find? c = some (.obj entries) ∧ Keyed.has k entries = true

end Resource

/-! ## What is bound -/

/-- The payload of a request that writes, as it is sent. -/
def Demand.given? : Demand → Option Object
  | .post (.obj given) => some given
  | .put (.obj entries) | .patch (.obj entries) => (Serving.part entries "payload").toOption
  | _ => none

namespace Admission

variable (r : Resource)

/-- The uses of values that rows are compared with. -/
def compared : Admission → List Use
  | create _ => []
  | read filter _ | list filter _ _ | update _ filter _ | delete filter _ =>
    filterUses r.toTableView filter

/-- The uses of values that are written. -/
def written : Admission → List Use
  | create payload => Change.insertionUses r.toTableView r.autoincrement payload
  | update op _ payload =>
    Change.assignmentUses r.toTableView (Serving.packed r payload) op r.kidColumn
  | read _ _ | list _ _ _ | delete _ _ => []

/-- The uses of values that are written and sent: all but the key that the session gives. -/
def sent : Admission → List Use
  | create payload =>
    (written r (create payload)).filter fun u => !(r.pkFromSession && u.origin = .payload r.pk)
  | a => written r a

/-- A value that is sent is bound for a spot. -/
def Binds (a : Admission) : Spot → Prop
  | .column c => ∃ u ∈ a.sent r, u.origin = .payload c
  | .key c k => ∃ u ∈ a.sent r, u.origin = .payload c ∧
      ∃ entries : Object, u.value = .json (.obj entries) ∧ Keyed.has k entries = true

end Admission

namespace Resource

variable {r : Resource} {payload : Object} {cmd : Sql.Command}

theorem insertCommand_params (h : r.insertCommand payload = .ok cmd) :
    cmd.params =
      (bindAll [] (Change.insertionUses r.toTableView r.autoincrement payload)).params :=
  (complete_ok (insertCommand_ok h)).2

theorem valueOf_stores {command : Except RequestError Sql.Command} {x : StoreAction} :
    (valueOf command).Performs x ↔ ∃ cmd, command = .ok cmd ∧ x = .run cmd := by
  unfold valueOf
  simp only [Plan.performs_bind, Plan.performs_ofExcept, Plan.returns_ofExcept, false_or,
    StorePlan.performs_query]

/-- All that a create does is to run the one statement that is made for it. -/
theorem create_stores {x : StoreAction} :
    (r.create payload).Performs x ↔ ∃ cmd, r.insertCommand payload = .ok cmd ∧ x = .run cmd := by
  unfold create
  simp only [Plan.performs_bind, Plan.performs_ofExcept, and_false, exists_false, or_false,
    valueOf_stores]

theorem run_of_stores {command : Except RequestError Sql.Command} :
    (∃ c, command = .ok c ∧ StoreAction.run cmd = .run c) ↔ command = .ok cmd := by
  constructor
  · rintro ⟨c, hc, hrun⟩
    rw [hc, StoreAction.run.inj hrun]
  · exact fun h => ⟨cmd, h, rfl⟩

theorem valueOf_performs {command : Except RequestError Sql.Command} :
    (valueOf command).Performs (StoreAction.run cmd) ↔ command = .ok cmd :=
  valueOf_stores.trans run_of_stores

theorem create_performs :
    (r.create payload).Performs (StoreAction.run cmd) ↔ r.insertCommand payload = .ok cmd :=
  create_stores.trans run_of_stores

theorem read_performs {filter : Object} {selection : Option (List Selected)} :
    (r.read filter selection).Performs (StoreAction.run cmd) ↔
      r.getCommand filter selection = .ok cmd := by
  unfold read
  rw [Plan.performs_bind, valueOf_performs]
  exact or_iff_left fun ⟨_, _, h⟩ => h

theorem list_performs {filter : Object} {page : PageSpec} {selection : Option (List Selected)} :
    (r.list filter page selection).Performs (StoreAction.run cmd) ↔
      r.listCommand filter page selection = .ok cmd := by
  unfold list
  simp only [Plan.performs_bind, Plan.performs_ofExcept, and_false, exists_false, or_false,
    valueOf_performs]

end Resource

namespace Serving

variable {s : Serving}

theorem createRow_plain (plain : s.hooks? = none) (payload : Object) :
    s.createRow payload =
      (ServicePlan.store (s.resource.create payload)).bind
        fun key => .done (.created (.obj [(s.resource.pk, key)])) := by
  unfold createRow
  rw [before_plain plain]
  simp only [Plan.bind, after_plain plain]

/-- A create without hooks runs one statement, once it is permitted and accepted, and does
    nothing else. -/
theorem post_stores (plain : s.hooks? = none) {body : Json} {x : StoreAction} :
    (s.post body).Performs (ServiceAction.store x) ↔
      (s.permit .post (some body)).Returns () ∧ ∃ payload, s.postInput body = .ok payload ∧
        ∃ cmd, s.resource.insertCommand payload = .ok cmd ∧ x = .run cmd := by
  unfold post
  simp only [Plan.performs_bind, Plan.performs_ofExcept, Plan.returns_ofExcept, false_or,
    orOverride_plain plain, createRow_plain plain, performs_store, Resource.create_stores]
  constructor
  · rintro (h | ⟨_, hpermit, payload, hpayload, h | ⟨n, _, h⟩⟩)
    · exact absurd h permit_performs
    · exact ⟨hpermit, payload, hpayload, h⟩
    · exact h.elim
  · rintro ⟨hpermit, payload, hpayload, h⟩
    exact .inr ⟨(), hpermit, payload, hpayload, .inl h⟩

theorem post_runs (plain : s.hooks? = none) {body : Json} {cmd : Sql.Command} :
    (s.post body).Performs (ServiceAction.store (.run cmd)) ↔
      (s.permit .post (some body)).Returns () ∧ ∃ payload, s.postInput body = .ok payload ∧
        s.resource.insertCommand payload = .ok cmd := by
  simp only [post_stores plain, Resource.run_of_stores]

theorem updateCommand_params {r : Resource} {op : Operation} {filter payload : Object}
    {cmd : Sql.Command} (h : r.updateCommand op filter (packed r payload) = .ok cmd) :
    cmd.params = (bindAll [] ((Admission.update op filter payload).compared r ++
      (Admission.update op filter payload).written r)).params :=
  (Resource.complete_ok (Resource.updateCommand_ok h)).2

/-- Without hooks the parameters of a statement that writes are those of an accepted
    request: first what rows are compared with, then what is written. -/
theorem serve_binds (plain : s.hooks? = none) {w : Demand} {given : Object}
    (hgiven : w.given? = some given) {cmd : Sql.Command}
    (h : (s.serve w).Performs (ServiceAction.store (.run cmd))) :
    ∃ a, s.Accepts w a ∧
      cmd.params = (bindAll [] (a.compared s.resource ++ a.written s.resource)).params := by
  cases w with
  | get | list | delete => contradiction
  | post body =>
    obtain ⟨_, payload, hpayload, hcmd⟩ := (post_runs plain).mp h
    obtain ⟨input, checked, rfl, hchecked, hkeyed⟩ := postInput_ok hpayload
    exact ⟨_, .post hchecked hkeyed, Resource.insertCommand_params hcmd⟩
  | put body =>
    obtain ⟨_, x, hx, hcmd⟩ := (update_runs plain).mp h
    obtain ⟨entries, select, changes, rfl, hselect, hchanges, hfilter, hvalid⟩ :=
      updateInput_ok_iff.mp hx
    exact ⟨_, .put hselect hchanges hfilter hvalid, updateCommand_params hcmd⟩
  | patch body =>
    obtain ⟨_, x, hx, hcmd⟩ := (update_runs plain).mp h
    obtain ⟨entries, select, changes, rfl, hselect, hchanges, hfilter, hvalid⟩ :=
      updateInput_ok_iff.mp hx
    exact ⟨_, .patch hselect hchanges hfilter hvalid, updateCommand_params hcmd⟩

/-- Where all may create, the statement of an accepted payload is run. -/
theorem post_open (plain : s.hooks? = none) (hextends : s.resource.extendsOn = none)
    (hallows : s.resource.allows .post = true) (hopen : s.resource.permissions = none)
    (hpk : s.resource.pkFromSession = false) {given payload : Object}
    (hvalid : s.resource.contracts.post.validate given = .ok payload) {cmd : Sql.Command}
    (hcmd : s.resource.insertCommand payload = .ok cmd) :
    (s.serve (.post (.obj given))).Performs (ServiceAction.store (.run cmd)) := by
  refine (post_runs plain).mpr ⟨?_, payload, ?_, hcmd⟩
  · rw [permit_open hallows hopen]
    rfl
  · simp only [postInput, hvalid, invalid, bind, Except.bind, packed_plain hextends, keyed, hpk]
    rfl

/-! ## From the payload to the parameters -/

theorem keyed_find? {payload keyed : Object} (h : s.keyed payload = .ok keyed) {c : String}
    (hc : ¬ (s.resource.pkFromSession = true ∧ c = s.resource.pk)) :
    keyed.find? c = payload.find? c := by
  unfold Serving.keyed at h
  split_ifs at h with hsession
  · rw [Except.ok.inj h]
  · have hsession : s.resource.pkFromSession = true := by simpa using hsession
    split at h
    · contradiction
    · obtain ⟨key, _, h⟩ := bind_eq_ok.mp h
      rw [← Except.ok.inj h, Keyed.find?_insert, if_neg fun hpk => hc ⟨hsession, hpk⟩]

/-- The payload of an accepted request has passed the contract for payloads, and what is
    sent is bound as the payload that passed has it. -/
theorem accepted_payload {w : Demand} {a : Admission} (h : s.Accepts w a) {given : Object}
    (hgiven : w.given? = some given) :
    ∃ c ∈ [s.resource.contracts.post, s.resource.contracts.update], ∃ valid,
      c.validate given = .ok valid ∧
        ∀ u ∈ a.sent s.resource,
          Change.Stores s.resource.toTableView (packed s.resource valid) u := by
  cases h with
  | get | list | delete => contradiction
  | @post input checked payload hchecked hkeyed =>
    obtain rfl : input = given := Option.some.inj hgiven
    refine ⟨_, List.mem_cons_self, checked, hchecked, fun u hu => ?_⟩
    obtain ⟨hu, hsent⟩ := List.mem_filter.mp hu
    obtain ⟨f, hf, hcolumn, horigin, v, hv, hvalue⟩ := Change.insertion_use hu
    refine ⟨f, hf, hcolumn, horigin, v, ?_, hvalue⟩
    rw [← hv, keyed_find? hkeyed]
    rintro ⟨hsession, hpk⟩
    rw [hsession, horigin, hpk] at hsent
    simp at hsent
  | put hselect hchanges hfilter hvalid | patch hselect hchanges hfilter hvalid =>
    have hpart := toOption_eq_some.mp hgiven
    rw [hchanges] at hpart
    obtain rfl := Except.ok.inj hpart
    exact ⟨_, by simp, _, hvalid, fun u hu => Change.assignment_use hu⟩

/-- An object that is sent for a column is bound with all its keys, whatever these are. -/
theorem bound_object {ds : Declarations} {d : ResourceDecl}
    (hr : Compile.resource ds d = .ok s.resource) {w : Demand} {a : Admission}
    (h : s.Accepts w a) {given : Object} (hgiven : w.given? = some given) {c k : String}
    {entries : Object} (hkid : s.resource.kidColumn ≠ some c)
    (hfind : given.find? c = some (.obj entries)) (hk : Keyed.has k entries = true)
    (hcolumn : a.Binds s.resource (.column c)) : a.Binds s.resource (.key c k) := by
  obtain ⟨contract, _, valid, hvalid, hstores⟩ := accepted_payload h hgiven
  obtain ⟨u, hu, horigin⟩ := hcolumn
  obtain ⟨f, hf, hstored, hname, v, hv, hvalue⟩ := hstores u hu
  obtain rfl : f.name = c := Origin.payload.inj (hname.symm.trans horigin)
  rw [find?_packed hkid (Compile.column_not_child hr hf hstored)] at hv
  obtain ⟨e, _, hsame, hsource⟩ := Contract.validate_source hvalid hv
  unfold Contract.Source at hsource
  rw [hsame, hfind] at hsource
  obtain ⟨kept, hkept, hkeys⟩ := Contract.checkValue_obj hsource
  exact ⟨u, hu, horigin, kept, by rw [hvalue kept hkept, hkept], hkeys k hk⟩

/-! ## Read-only fields -/

/-- What is read-only in the spot of a name is declared under the name. -/
theorem readOnly_spot {ds : Declarations} (hcheck : ds.check = .ok ()) {d : ResourceDecl}
    (hd : d ∈ ds) {r : Resource} (hr : Compile.resource ds d = .ok r) (n : String) :
    ds.ReadOnly d (r.spot n) ↔ ∃ f ∈ ds.declared d, f.name = n ∧ f.readOnly = true := by
  unfold Resource.spot
  cases hkid : r.kidColumn with
  | none => exact Iff.rfl
  | some c =>
    dsimp only
    split_ifs with hchild
    · obtain ⟨e, he, rfl⟩ := (Compile.isChildField_iff hr).mp hchild
      obtain ⟨p, templates, hp, _, rfl⟩ := Compile.resource_ok_iff.mp hr
      obtain ⟨ext, hext, rfl⟩ := Option.map_eq_some_iff.mp hkid
      have hplace : d.info.extendsOn = some ⟨(ds.owner d).name, ext.column⟩ := by
        rw [← (Compile.parent_eq hp hext).2]
        exact hext
      constructor
      · rintro ⟨kid, hmem, hkidext, f, hf, hname, hread⟩
        obtain rfl := Declarations.check_extensions hcheck hmem hd hkidext hplace
        exact ⟨f, List.mem_append_right _ (Compile.mem_ownFields.mp hf).1, hname, hread⟩
      · rintro ⟨f, hf, hname, hread⟩
        -- the owner has no field of this name, so the field is one that the extension adds
        have hnew := (Compile.mem_ownFields.mp he).2
        refine ⟨d, hd, hplace, f, Compile.mem_ownFields.mpr ⟨?_, ?_⟩, hname, hread⟩
        · exact (List.mem_append.mp hf).resolve_left fun howner => hnew f howner hname
        · rw [hname]
          exact hnew
    · exact Iff.rfl

/-- A name that is accepted in a payload is declared without read-only. -/
theorem writable_declared {ds : Declarations} {d : ResourceDecl}
    (hr : Compile.resource ds d = .ok s.resource) {w : Demand} {a : Admission}
    (h : s.Accepts w a) {given : Object} (hgiven : w.given? = some given) {n : String}
    (hn : Keyed.has n given = true) : ∃ f ∈ ds.declared d, f.name = n ∧ f.readOnly = false := by
  obtain ⟨contract, hcontract, valid, hvalid, _⟩ := accepted_payload h hgiven
  obtain ⟨f, hf, hname, hwrite, _⟩ := Compile.writable_of_accepted hr hcontract hvalid hn
  refine ⟨f.decl, ?_, hname, hwrite⟩
  rcases Compile.field_declared hr hf with howner | ⟨hown, _⟩
  · exact List.mem_append_left _ howner
  · exact List.mem_append_right _ (Compile.mem_ownFields.mp hown).1

/-- Without hooks a statement that writes binds a value that was sent for a read-only field
    exactly in two cases. The payload has an object for the column of a nested extension,
    other than that of the resource, with the key of a read-only field; or it has a name
    that is declared both read-only and without. -/
theorem read_only_bound_iff {ds : Declarations} {g : Registry} (hg : ds.resolve = .ok g)
    {d : ResourceDecl} (hd : d ∈ ds) (hr : Compile.resource ds d = .ok s.resource)
    (plain : s.hooks? = none) {w : Demand} {given : Object} (hgiven : w.given? = some given)
    {cmd : Sql.Command} (h : (s.serve w).Performs (ServiceAction.store (.run cmd))) :
    ∃ a, s.Accepts w a ∧
      cmd.params = (bindAll [] (a.compared s.resource ++ a.written s.resource)).params ∧
      ((∃ spot, ds.ReadOnly d spot ∧ s.resource.Gives given spot ∧ a.Binds s.resource spot) ↔
        (∃ (c k : String) (entries : Object), ds.ReadOnly d (.key c k) ∧
          s.resource.kidColumn ≠ some c ∧ given.find? c = some (.obj entries) ∧
          Keyed.has k entries = true ∧ a.Binds s.resource (.column c)) ∨
        ∃ n, ds.Ambiguous d n ∧ Keyed.has n given = true ∧
          a.Binds s.resource (s.resource.spot n)) := by
  obtain ⟨a, haccepts, hparams⟩ := serve_binds plain hgiven h
  have hcheck : ds.check = .ok () := (Compile.resolve_ok_iff.mp hg).1
  refine ⟨a, haccepts, hparams, ?_, ?_⟩
  · rintro ⟨spot, hread, ⟨n, rfl, hn⟩ | ⟨c, k, entries, rfl, hkid, hfind, hk⟩, hbinds⟩
    · have hdeclared := (readOnly_spot hcheck hd hr n).mp hread
      exact .inr ⟨n, ⟨hdeclared, writable_declared hr haccepts hgiven hn⟩, hn, hbinds⟩
    · obtain ⟨u, hu, horigin, _⟩ := hbinds
      exact .inl ⟨c, k, entries, hread, hkid, hfind, hk, u, hu, horigin⟩
  · rintro (⟨c, k, entries, hread, hkid, hfind, hk, hcolumn⟩ | ⟨n, ⟨hread, _⟩, hn, hbinds⟩)
    · exact ⟨.key c k, hread, .inr ⟨c, k, entries, rfl, hkid, hfind, hk⟩,
        bound_object hr haccepts hgiven hkid hfind hk hcolumn⟩
    · exact ⟨s.resource.spot n, (readOnly_spot hcheck hd hr n).mpr hread, .inl ⟨n, rfl, hn⟩,
        hbinds⟩

/-- Actors with a document of details. -/
def actor : ResourceDecl :=
  .plain "Actor" "actor" [.key "id", .plain "details" .dict (some (.simple "jsonb"))]

/-- Operators are actors with a shift, and with a phone that nobody may write. -/
def operator : ResourceDecl :=
  { ResourceDecl.plain "Operator" "actor"
      [{ FieldDecl.plain "phone" .string none with readOnly := true },
        .plain "shift" .string none] with
    info := { ResourceMeta.plain with
      route := some "operator"
      extendsOn := some ⟨"Actor", "details"⟩ } }

/-- Actors and operators. -/
def crew : Declarations := [actor, operator]

/-- An actor with details. -/
def withDetails (details : Object) : Object := [("details", .obj details), ("id", .ofInt 1)]

/-- Serves a resource to anybody, without hooks. -/
def openly (g : Registry) (r : Resource) : Serving := ⟨⟨g, [], []⟩, r, Session.anonymous⟩

/-- Actors are created by whoever gives valid details. -/
theorem actor_posts (details : Object) (params : List Sql.Param)
    (h : (Compile.writtenResources crew).toOption.any (·.any fun r =>
      r.name = "Actor" ∧ r.extendsOn = none ∧ r.allows .post = true ∧ r.permissions = none ∧
      r.pkFromSession = false ∧
      (r.contracts.post.validate (withDetails details)).toOption = some (withDetails details) ∧
      (r.insertCommand (withDetails details)).toOption.map (·.params) = some params) = true) :
    ∃ g, crew.resolve = .ok g ∧ ∃ r ∈ g.resources, Compile.resource crew actor = .ok r ∧
      r.extendsOn = none ∧ ∃ cmd, cmd.params = params ∧ ∀ s : Serving, s.resource = r →
        s.hooks? = none → (s.serve (.post (.obj (withDetails details)))).Performs
          (ServiceAction.store (.run cmd)) := by
  obtain ⟨g, hg, r, hr, hP⟩ := Compile.exists_resolved crew _ (by decide +kernel) h
  obtain ⟨hname, hextends, hallows, hopen, hpk, hvalid, hcmd⟩ := of_decide_eq_true hP
  obtain ⟨cmd, hcmd, hparams⟩ := Option.map_eq_some_iff.mp hcmd
  obtain ⟨d, hd, hcompiled⟩ := Compile.mem_resolved hg hr
  have hactor : d = actor := by
    have hdname := (Compile.resource_name hcompiled).symm.trans hname
    simp only [crew, List.mem_cons, List.not_mem_nil, or_false] at hd
    rcases hd with rfl | rfl
    · rfl
    · exact absurd hdname (by decide)
  refine ⟨g, hg, r, hr, hactor ▸ hcompiled, hextends, cmd, hparams, ?_⟩
  rintro s rfl plain
  exact post_open plain hextends hallows hopen hpk (toOption_eq_some.mp hvalid)
    (toOption_eq_some.mp hcmd)

theorem read_only_bound_crew :
    ∃ g, crew.resolve = .ok g ∧ ∃ r ∈ g.resources, Compile.resource crew actor = .ok r ∧
      ∃ cmd, cmd.params = [.text (some "1"), .json (.obj [("shift", .str "late")])] ∧
        ((openly g r).serve (.post (.obj (withDetails [("shift", .str "late")])))).Performs
          (ServiceAction.store (.run cmd)) ∧
        ∃ a, (openly g r).Accepts (.post (.obj (withDetails [("shift", .str "late")]))) a ∧
          ¬ ∃ spot, crew.ReadOnly actor spot ∧
            r.Gives (withDetails [("shift", .str "late")]) spot ∧ a.Binds r spot := by
  obtain ⟨g, hg, r, hr, hcompiled, _, cmd, hparams, hruns⟩ := actor_posts [("shift", .str "late")]
    [.text (some "1"), .json (.obj [("shift", .str "late")])] (by decide +kernel)
  have hrun := hruns (openly g r) rfl rfl
  obtain ⟨a, haccepts, _, hbound⟩ :=
    read_only_bound_iff hg (by simp [crew]) hcompiled (s := openly g r) rfl rfl hrun
  refine ⟨g, hg, r, hr, hcompiled, cmd, hparams, hrun, a, haccepts, fun h => ?_⟩
  rcases hbound.mp h with ⟨c, k, entries, hread, _, hfind, hk, _⟩ | ⟨n, ⟨hread, _⟩, _⟩
  · have hgiven : c = "details" ∧ entries = [("shift", .str "late")] := by
      simp only [withDetails, Keyed.find?] at hfind
      split_ifs at hfind with hdetails
      · exact ⟨hdetails, (Json.obj.inj (Option.some.inj hfind)).symm⟩
      · exact absurd (Option.some.inj hfind) (by simp [Json.ofInt])
    obtain ⟨rfl, rfl⟩ := hgiven
    have hshift : k = "shift" := by
      by_contra hne
      simp [Keyed.has, Keyed.find?, hne] at hk
    obtain ⟨kid, hkid, hext, f, hf, hname, hf'⟩ := hread
    have hall : ∀ kid ∈ crew, ∀ f ∈ Compile.ownFields kid (crew.owner actor),
        f.name = "shift" → f.readOnly = false := by decide +kernel
    exact Bool.eq_false_iff.mp (hall kid hkid f hf (hname.trans hshift)) hf'
  · obtain ⟨f, hf, _, hf'⟩ := hread
    have hall : ∀ f ∈ crew.declared actor, f.readOnly = false := by decide +kernel
    exact Bool.eq_false_iff.mp (hall f hf) hf'

/-! ## A read-only key -/

/-- Whoever may create actors gives an operator a phone. -/
theorem read_only_key :
    ∃ g, crew.resolve = .ok g ∧ ∃ r ∈ g.resources, Compile.resource crew actor = .ok r ∧
      crew.ReadOnly actor (.key "details" "phone") ∧
      r.Gives (withDetails [("phone", .str "555")]) (.key "details" "phone") ∧
      ∃ cmd, cmd.params = [.text (some "1"), .json (.obj [("phone", .str "555")])] ∧
        ∀ s : Serving, s.resource = r → s.hooks? = none →
          (s.serve (.post (.obj (withDetails [("phone", .str "555")])))).Performs
            (ServiceAction.store (.run cmd)) := by
  obtain ⟨g, hg, r, hr, hcompiled, hextends, cmd, hparams, hruns⟩ := actor_posts
    [("phone", .str "555")] [.text (some "1"), .json (.obj [("phone", .str "555")])]
    (by decide +kernel)
  have hfree : r.kidColumn ≠ some "details" := by simp [Resource.kidColumn, hextends]
  refine ⟨g, hg, r, hr, hcompiled, ?_, ?_, cmd, hparams, hruns⟩
  · exact ⟨operator, by simp [crew], rfl, { FieldDecl.plain "phone" .string none with
      readOnly := true }, by decide +kernel, rfl, rfl⟩
  · exact .inr ⟨"details", "phone", _, rfl, hfree, rfl, rfl⟩

end Serving

end RowServe
