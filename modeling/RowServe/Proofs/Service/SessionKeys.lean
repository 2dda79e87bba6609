import RowServe.Proofs.Contract.Integers
import RowServe.Proofs.Service.Packed

/-!
# Keys that the session gives

New rows of some resources have the id of an actor as their key. The contract for new rows
leaves such a key out, the request puts it into the payload behind the checks, and the insert
takes it from there. A nested extension does what the owner of its table does. If a sequence is
declared for the key, the insert takes the next value of the sequence instead, whatever the
payload has.

Results:

* `integerKey?_eq_some_iff`: the ids that are integers of 64 bits.
* `keyed_ok_iff`: what a payload is with the key of a session.
* `session_key_inserted`: what a create inserts as the key, and when it does nothing.
* `sequence_first`: a key that is taken from a sequence although there is an actor.
-/

namespace RowServe

open RowServe.Filter (bindAll)
open Sql.Template (Values Verbatim)

/-! ## Keys of resources -/

/-- The declaration takes the keys of new rows from the session, or that of the owner of its
    table does. -/
def Declarations.KeyFromSession (ds : Declarations) (d : ResourceDecl) : Prop :=
  d.info.pkFromSession = true ∨ (ds.owner d).info.pkFromSession = true

namespace Compile

variable {ds : Declarations} {g : Registry} {d : ResourceDecl} {r : Resource}

theorem pkFromSession_iff (hr : resource ds d = .ok r) :
    r.pkFromSession = true ↔ ds.KeyFromSession d := by
  obtain ⟨p, templates, hp, _, rfl⟩ := resource_ok_iff.mp hr
  unfold Declarations.KeyFromSession
  rw [← hp.owner_eq, ← Bool.or_eq_true]
  rfl

/-- The primary key is stored. -/
theorem key_stored (hg : ds.resolve = .ok g) (hd : d ∈ ds) (hr : resource ds d = .ok r) :
    r.pk ∈ r.columnNames := by
  obtain ⟨hcheck, htables, _⟩ := resolve_ok_iff.mp hg
  obtain ⟨howner, hplain⟩ := owner_plain hcheck hd
  obtain ⟨hkey, _⟩ := TableDef.mem_ofDecls htables howner hplain
  obtain ⟨_, ⟨pk, hpk, hname⟩, _⟩ := resource_owner hr
  rw [hname]
  exact stored_columnName hr (List.mem_of_find?_eq_some hpk) (TableDef.checkKey_ok hkey hpk)

end Compile

/-! ## Keys of actors -/

namespace Resource

variable {r : Resource} {actor : String} {key : Json} {payload : Object} {cmd : Sql.Command}

/-- The key is a number. The first field of its name counts. -/
def hasNumericKey (r : Resource) : Bool :=
  (r.field? r.pk).any fun f => f.decl.valueType.isNumeric

/-- The key that a resource makes of the id of an actor: the integer that the id is, if the key
    is a number, and else the id as it stands. -/
inductive KeyOf (r : Resource) (actor : String) : Json → Prop where
  | integer {n : Int} (numeric : r.hasNumericKey = true)
      (written : Number.Numeral actor.toList n) (fits : Number.isSigned64 n = true) :
      KeyOf r actor (.ofInt n)
  | text (other : r.hasNumericKey = false) : KeyOf r actor (.str actor)

/-- What a key is bound as. A document is bound for a column of a compound type. -/
def keyParam (r : Resource) (key : Json) : Sql.Param :=
  if ((r.fields.filter Field.isColumn).find? (·.name = r.pk)).any (·.decl.valueType.isCompound)
  then .json key else .scalar key

/-- An insert lists its columns and values, and the column of the key gets the key of the actor
    and nothing else. If there is a sequence for the key, the column takes its next value, and
    nothing is bound for it. -/
structure InsertsKey (r : Resource) (payload : Object) (key : Json) (cmd : Sql.Command) :
    Prop where
  text : ∃ into back, cmd.text =
    "INSERT INTO " ++ into ++ " (" ++ Sql.columnList (r.insertedValues payload) ++ ") VALUES (" ++
      Sql.valueList (r.insertedValues payload) ++ ") RETURNING to_json(" ++ back
  bound : r.autoincrement = none →
    ∀ w, Sql.Sets (r.insertedValues payload) cmd.params r.pk w ↔ w = r.keyParam key
  generated : ∀ sequence, r.autoincrement = some sequence →
    ⟨r.pk, .next sequence⟩ ∈ r.insertedValues payload ∧
      ∀ w, ¬ Sql.Sets (r.insertedValues payload) cmd.params r.pk w

theorem KeyOf.not_null (h : r.KeyOf actor key) : key.isNull = false := by
  cases h <;> rfl

/-- The key of an actor is bound as a text, or as a document for a compound type. -/
theorem KeyOf.columnParam (h : r.KeyOf actor key) {f : Field}
    (hf : (r.fields.filter Field.isColumn).find? (·.name = r.pk) = some f) :
    (Filter.columnParam f key).1 = r.keyParam key := by
  unfold keyParam
  rw [hf, Option.any_some]
  cases h <;>
    · unfold Filter.columnParam
      dsimp only [Json.ofInt]
      split_ifs <;> rfl

/-- An insert of a payload with the key of an actor inserts it. -/
theorem insertsKey {ds : Declarations} {d : ResourceDecl} (hr : Compile.resource ds d = .ok r)
    (hstored : r.pk ∈ r.columnNames) (hkey : r.KeyOf actor key)
    (hgiven : payload.find? r.pk = some key) (h : r.insertCommand payload = .ok cmd) :
    r.InsertsKey payload key cmd where
  text := insertCommand_text hr h
  bound hnone w := by
    obtain ⟨f, hf⟩ := Field.exists_named hstored
    have hgenerated : r.generatedKey ≠ some r.pk := by simp [generatedKey, hnone]
    rw [(inserted h).params, ← hkey.columnParam hf]
    exact inserted_sets_value hgenerated hgiven hkey.not_null hf
  generated sequence hsequence := by
    have hgenerated : r.generatedKey = some r.pk := by simp [generatedKey, hsequence]
    rw [(inserted h).params]
    refine ⟨?_, fun w => generated_sets hgenerated⟩
    unfold insertedValues Change.insertionsAt
    rw [hsequence]
    exact List.mem_append_left _ (List.mem_singleton.mpr rfl)

theorem key_inserted (hstored : r.pk ∈ r.columnNames) (hgiven : payload.find? r.pk = some key) :
    r.pk ∈ (r.insertedValues payload).map (·.column) := by
  rw [inserted_columns]
  cases hgenerated : r.generatedKey with
  | some c =>
    obtain ⟨_, _, rfl⟩ := Option.map_eq_some_iff.mp hgenerated
    exact List.mem_append_left _ (List.mem_singleton.mpr rfl)
  | none =>
    refine List.mem_append_right _ (List.mem_filter.mpr ⟨hstored, ?_⟩)
    simp [Keyed.has, hgiven]

theorem insertCommand_of_values (h : r.insertedValues payload ≠ []) :
    r.insertCommand payload = complete r.templates.insert
      ((Values.empty.set .cols (Sql.columnList (r.insertedValues payload))).set .vals
        (Sql.valueList (r.insertedValues payload)))
      (bindAll [] (Change.insertionUses r.toTableView r.autoincrement payload)) := by
  unfold insertCommand
  rw [Change.insertions_eq]
  exact if_neg (mt List.isEmpty_iff.mp h)

/-- With verbatim names a payload that has the key is inserted. -/
theorem exists_insert {ds : Declarations} {d : ResourceDecl} (hr : Compile.resource ds d = .ok r)
    (htable : Verbatim r.table) (hpk : Verbatim r.pk) (hstored : r.pk ∈ r.columnNames)
    (hgiven : payload.find? r.pk = some key) : ∃ cmd, r.insertCommand payload = .ok cmd := by
  have htemplate : r.templates.insert = ⟨Statement.insertSegments r.table r.pk⟩ := by
    obtain ⟨p, templates, _, htemplates, rfl⟩ := Compile.resource_ok_iff.mp hr
    have hwritten := Statement.templates_verbatim (p.view ds d) htable hpk
    rw [← Except.ok.inj ((hwritten _ _).symm.trans htemplates)]
    rfl
  have hvalues : r.insertedValues payload ≠ [] := by
    intro hnil
    have hmem := key_inserted hstored hgiven
    rw [hnil] at hmem
    exact List.not_mem_nil hmem
  obtain ⟨text, htext⟩ := (Sql.Template.exists_render r.templates.insert
    ((Values.empty.set .cols (Sql.columnList (r.insertedValues payload))).set .vals
      (Sql.valueList (r.insertedValues payload)))).mpr fun slot hslot => by
    rw [htemplate, Sql.Template.has, Statement.insertSegments, List.contains_iff_mem] at hslot
    simp only [List.mem_cons, reduceCtorEq, Sql.Segment.gap.injEq, List.not_mem_nil, or_false,
      false_or] at hslot
    rcases hslot with rfl | rfl <;> simp [Values.set]
  rw [insertCommand_of_values hvalues, complete, htext]
  exact ⟨_, rfl⟩

end Resource

namespace Serving

variable {s : Serving} {actor : String} {key : Json} {payload keyed : Object} {n : Int}

theorem integerKey?_eq_some_iff :
    integerKey? actor = some n ↔
      Number.Numeral actor.toList n ∧ Number.isSigned64 n = true := by
  unfold integerKey?
  split_ifs with htrim
  · have hlist : Text.trimList actor.toList = actor.toList := by
      rw [← String.toList_ofList (l := Text.trimList actor.toList)]
      exact congrArg String.toList htrim
    rw [Number.integer?_numeral, hlist]
  · refine iff_of_false (fun h => by contradiction) fun ⟨hwritten, _⟩ => htrim ?_
    have hkept : Text.trimList ([] ++ actor.toList ++ []) = actor.toList :=
      Text.trimList_between (by simp) hwritten.ends.1 hwritten.ends.2 (by simp)
    rw [List.nil_append, List.append_nil] at hkept
    rw [Text.trim, hkept, String.ofList_toList]

theorem sessionKey_ok_iff {r : Resource} : sessionKey r actor = .ok key ↔ r.KeyOf actor key := by
  unfold sessionKey
  cases hnumeric : r.hasNumericKey with
  | true =>
    have hcond : ((r.field? r.pk).any fun f => f.decl.valueType.isNumeric) = true := hnumeric
    rw [if_pos hcond]
    constructor
    · intro h
      split at h
      · rename_i n hn
        obtain ⟨hwritten, hfits⟩ := integerKey?_eq_some_iff.mp hn
        rw [← Except.ok.inj h]
        exact .integer hnumeric hwritten hfits
      · contradiction
    · intro h
      cases h with
      | integer _ hwritten hfits => rw [integerKey?_eq_some_iff.mpr ⟨hwritten, hfits⟩]
      | text hother =>
        rw [hnumeric] at hother
        contradiction
  | false =>
    have hcond : ¬ ((r.field? r.pk).any fun f => f.decl.valueType.isNumeric) = true :=
      Bool.eq_false_iff.mp hnumeric
    rw [if_neg hcond]
    constructor
    · intro h
      rw [← Except.ok.inj h]
      exact .text hnumeric
    · intro h
      cases h with
      | integer htrue _ _ =>
        rw [hnumeric] at htrue
        contradiction
      | text _ => rfl

/-- The session has an actor, and this is the key that is made of the id. -/
def ActorKey (s : Serving) (key : Json) : Prop :=
  ∃ actor, s.session.actorId = some actor ∧ s.resource.KeyOf actor key

/-- Where keys are taken from the session, there has to be one. -/
theorem keyed_ok_iff (hsession : s.resource.pkFromSession = true) :
    s.keyed payload = .ok keyed ↔
      ∃ key, s.ActorKey key ∧ keyed = payload.insert s.resource.pk key := by
  unfold Serving.keyed ActorKey
  rw [hsession]
  cases s.session.actorId with
  | none => simp
  | some actor =>
    simp only [Bool.not_true, Bool.false_eq_true, if_false, bind_eq_ok, sessionKey_ok_iff]
    constructor
    · rintro ⟨key, hkey, h⟩
      exact ⟨key, ⟨actor, rfl, hkey⟩, (Except.ok.inj h).symm⟩
    · rintro ⟨key, ⟨_, hactor, hkey⟩, rfl⟩
      rw [← Option.some.inj hactor] at hkey
      exact ⟨key, hkey, rfl⟩

/-- The payload that a create inserts has the key of the actor. -/
theorem postInput_keyed (hsession : s.resource.pkFromSession = true) {body : Json}
    (h : s.postInput body = .ok payload) :
    ∃ key, s.ActorKey key ∧ payload.find? s.resource.pk = some key := by
  obtain ⟨_, checked, _, _, hkeyed⟩ := postInput_ok h
  obtain ⟨key, hkey, rfl⟩ := (keyed_ok_iff hsession).mp hkeyed
  exact ⟨key, hkey, by rw [Keyed.find?_insert, if_pos rfl]⟩

theorem postInput_of_key (hsession : s.resource.pkFromSession = true) (hkey : s.ActorKey key)
    {given checked : Object} (h : s.resource.contracts.post.validate given = .ok checked) :
    s.postInput (.obj given) = .ok ((packed s.resource checked).insert s.resource.pk key) := by
  have hkeyed : s.keyed (packed s.resource checked) =
      .ok ((packed s.resource checked).insert s.resource.pk key) :=
    (keyed_ok_iff hsession).mpr ⟨key, hkey, rfl⟩
  simp only [postInput, h, invalid, bind, Except.bind, hkeyed]

/-- Without hooks, all that a create does where keys are taken from the session is to insert the
    key of the actor, or the next value of a sequence that is declared for the key. It inserts
    every payload that is accepted. Without an actor, and for an actor whose id is no integer
    of 64 bits if the key is a number, it does nothing. -/
theorem session_key_inserted {ds : Declarations} {g : Registry} (hg : ds.resolve = .ok g)
    {d : ResourceDecl} (hd : d ∈ ds) (hr : Compile.resource ds d = .ok s.resource)
    (hsession : ds.KeyFromSession d) (plain : s.hooks? = none) (body : Json) :
    (∀ x, (s.post body).Performs (ServiceAction.store x) →
      ∃ payload key cmd, s.postInput body = .ok payload ∧ s.ActorKey key ∧ x = .run cmd ∧
        s.resource.InsertsKey payload key cmd) ∧
    (∀ given checked key, body = .obj given →
      s.resource.contracts.post.validate given = .ok checked → s.ActorKey key →
      (s.permit .post (some body)).Returns () →
      Verbatim s.resource.table → Verbatim s.resource.pk →
        ∃ cmd, (s.post body).Performs (ServiceAction.store (.run cmd))) ∧
    ((s.session.actorId = none ∨ ∃ actor, s.session.actorId = some actor ∧
        s.resource.hasNumericKey = true ∧
        ¬ ∃ n, Number.Numeral actor.toList n ∧ Number.isSigned64 n = true) →
      ∀ x, ¬ (s.post body).Performs (ServiceAction.store x)) := by
  have hpk : s.resource.pkFromSession = true := (Compile.pkFromSession_iff hr).mpr hsession
  have hstored := Compile.key_stored hg hd hr
  have hinserts : ∀ x, (s.post body).Performs (ServiceAction.store x) →
      ∃ payload key cmd, s.postInput body = .ok payload ∧ s.ActorKey key ∧ x = .run cmd ∧
        s.resource.InsertsKey payload key cmd := by
    intro x h
    obtain ⟨_, payload, hpayload, cmd, hcmd, rfl⟩ := (post_stores plain).mp h
    obtain ⟨key, ⟨actor, hactor, hkey⟩, hgiven⟩ := postInput_keyed hpk hpayload
    exact ⟨payload, key, cmd, hpayload, ⟨actor, hactor, hkey⟩, rfl,
      Resource.insertsKey hr hstored hkey hgiven hcmd⟩
  refine ⟨hinserts, ?_, ?_⟩
  · rintro given checked key rfl hvalid hkey hpermit htable hname
    have hgiven : ((packed s.resource checked).insert s.resource.pk key).find? s.resource.pk =
        some key := by rw [Keyed.find?_insert, if_pos rfl]
    obtain ⟨cmd, hcmd⟩ := Resource.exists_insert hr htable hname hstored hgiven
    exact ⟨cmd, (post_runs plain).mpr
      ⟨hpermit, _, postInput_of_key hpk hkey hvalid, hcmd⟩⟩
  · intro hnone x h
    obtain ⟨_, key, _, _, ⟨actor, hactor, hkey⟩, _⟩ := hinserts x h
    rcases hnone with hnone | ⟨other, hother, hnumeric, hno⟩
    · rw [hnone] at hactor
      contradiction
    · obtain rfl := Option.some.inj (hactor.symm.trans hother)
      cases hkey with
      | integer _ hwritten hfits => exact hno ⟨_, hwritten, hfits⟩
      | text hfalse =>
        rw [hnumeric] at hfalse
        contradiction

/-- Profiles, each of which has the id of an actor as its key, with a sequence for it or not. -/
def profile (sequence : Option String) : ResourceDecl :=
  { ResourceDecl.plain "Profile" "profile"
      [{ FieldDecl.key "id" with autoincrement := sequence },
        .plain "name" .string (some (.simple "text"))] with
    info := { ResourceMeta.plain with
      route := some "profile"
      pkFromSession := true } }

/-- A profile with a name. -/
def named : Object := [("name", .str "Kari")]

/-- The one statement that the seventh actor runs to create a profile. -/
theorem profile_posts (sequence : Option String) (cmd : Sql.Command)
    (hplain : Compile.PlainNames [profile sequence])
    (h : (Compile.writtenResources [profile sequence]).toOption.any (·.any fun r =>
      r.allows .post = true ∧ r.permissions = none ∧ r.pkFromSession = true ∧
      r.autoincrement = sequence ∧ (sessionKey r "7").toOption = some (.ofInt 7) ∧
      (r.contracts.post.validate named).toOption = some named ∧
      (r.insertCommand ((packed r named).insert r.pk (.ofInt 7))).toOption = some cmd) = true) :
    ∃ g, Declarations.resolve [profile sequence] = .ok g ∧ ∃ r ∈ g.resources,
      Compile.resource [profile sequence] (profile sequence) = .ok r ∧
      r.autoincrement = sequence ∧ ∀ s : Serving, s.resource = r → s.hooks? = none →
        s.session.actorId = some "7" → (∀ key, s.ActorKey key ↔ key = .ofInt 7) ∧
          ∀ x, (s.post (.obj named)).Performs (ServiceAction.store x) ↔ x = .run cmd := by
  obtain ⟨g, hg, r, hr, hP⟩ := Compile.exists_resolved [profile sequence] _ hplain h
  obtain ⟨hallows, hopen, hsession, hsequence, hkey, hvalid, hcmd⟩ := of_decide_eq_true hP
  obtain ⟨d, hd, hcompiled⟩ := Compile.mem_resolved hg hr
  obtain rfl := List.mem_singleton.mp hd
  refine ⟨g, hg, r, hr, hcompiled, hsequence, ?_⟩
  rintro s rfl plain hactor
  have hseven (key : Json) : s.ActorKey key ↔ key = .ofInt 7 := by
    unfold ActorKey
    simp only [hactor, Option.some.injEq, exists_eq_left', ← sessionKey_ok_iff]
    rw [toOption_eq_some.mp hkey, Except.ok.injEq, eq_comm]
  have hinput := postInput_of_key hsession ((hseven _).mpr rfl) (toOption_eq_some.mp hvalid)
  refine ⟨hseven, fun x => (post_stores plain).trans ?_⟩
  rw [permit_open hallows hopen, hinput]
  simp only [Except.ok.injEq, exists_eq_left', toOption_eq_some.mp hcmd]
  exact and_iff_right rfl

/-- Serves a resource to an actor, without hooks. -/
def actedBy (g : Registry) (r : Resource) (actor : String) : Serving :=
  ⟨⟨g, [], []⟩, r, { Session.anonymous with actorId := some actor }⟩

/-- The key of a profile is the id of the actor who creates it. -/
theorem profile_inserted :
    ∃ g, Declarations.resolve [profile none] = .ok g ∧ ∃ r ∈ g.resources,
      r.autoincrement = none ∧ ∃ cmd, cmd.params = [.text (some "7"), .text (some "Kari")] ∧
        ((actedBy g r "7").post (.obj named)).Performs (ServiceAction.store (.run cmd)) ∧
        ∃ payload, r.InsertsKey payload (.ofInt 7) cmd := by
  obtain ⟨g, hg, r, hr, hcompiled, hnone, hposts⟩ := profile_posts none
    ⟨"INSERT INTO \"profile\" (\"id\", \"name\") VALUES ($1::int, $2::text) " ++
      "RETURNING to_json(\"profile\".\"id\")", [.text (some "7"), .text (some "Kari")]⟩
    (by decide +kernel) (by decide +kernel)
  obtain ⟨hkey, hruns⟩ := hposts (actedBy g r "7") rfl rfl rfl
  have hrun := (hruns _).mpr rfl
  obtain ⟨payload, key, cmd, _, hactor, hcmd, hinserts⟩ := (session_key_inserted hg
    (List.mem_singleton.mpr rfl) (s := actedBy g r "7") hcompiled (.inl rfl) rfl _).1 _ hrun
  obtain rfl := (hkey key).mp hactor
  obtain rfl := StoreAction.run.inj hcmd
  exact ⟨g, hg, r, hr, hnone, _, rfl, hrun, payload, hinserts⟩

/-! ## A key with a sequence -/

/-- A profile whose key has a sequence gets the next value of it for a key, and the id of the
    actor who creates the profile is not stored anywhere. -/
theorem sequence_first :
    ∃ g, Declarations.resolve [profile (some "profile_id_seq")] = .ok g ∧ ∃ r ∈ g.resources,
      r.pkFromSession = true ∧ ∃ cmd,
        cmd.text = "INSERT INTO \"profile\" (\"id\", \"name\") VALUES " ++
          "(nextval('profile_id_seq'), $1::text) RETURNING to_json(\"profile\".\"id\")" ∧
        cmd.params = [.text (some "Kari")] ∧
        ∀ s : Serving, s.resource = r → s.hooks? = none → s.session.actorId = some "7" →
          s.ActorKey (.ofInt 7) ∧
            ∀ x, (s.post (.obj named)).Performs (ServiceAction.store x) ↔ x = .run cmd := by
  obtain ⟨g, hg, r, hr, hcompiled, _, hposts⟩ := profile_posts (some "profile_id_seq")
    ⟨"INSERT INTO \"profile\" (\"id\", \"name\") VALUES " ++
      "(nextval('profile_id_seq'), $1::text) RETURNING to_json(\"profile\".\"id\")",
      [.text (some "Kari")]⟩
    (by decide +kernel) (by decide +kernel)
  refine ⟨g, hg, r, hr, (Compile.pkFromSession_iff hcompiled).mpr (.inl rfl), ⟨_, _⟩, rfl, rfl, ?_⟩
  intro s hs plain hactor
  obtain ⟨hkey, hruns⟩ := hposts s hs plain hactor
  exact ⟨(hkey _).mpr rfl, hruns⟩

end Serving

end RowServe
