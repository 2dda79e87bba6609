import RowServe.Proofs.Resource.Merged
import RowServe.Proofs.Service.ReadOnly

/-!
# Filters of deletes

A delete is filtered by the fields that its list names, and that of a nested extension by
the own fields of the extension as well, whether they are in the list or not: what the
contract for deletes refuses of them is checked again, as for a read. Any other key is told
as an error, and nothing is deleted.

Results:

* `delete_names`: the contract for deletes has no fields beside those in the list.
* `checkFilter_refuses`: which keys of a filter are always refused.
* `delete_unlisted`: a delete by any other key does nothing.
* `delete_keys_iff`: the keys that rows are deleted by.
* `deleted_by_city`: rows that are deleted by a field that is not in the list.
-/

namespace RowServe

namespace Compile

variable {ds : Declarations} {d : ResourceDecl} {r : Resource}

/-! ## Keys of contracts -/

theorem readContract_names {list : Bool} {linked : List Linked}
    {nested : List (String × Contract)} {fields : List Field} {names : List String}
    {c : Contract} (h : readContract list linked nested fields names = .ok c) :
    ∀ k ∈ c.names, k ∈ names := by
  obtain ⟨specs, hspecs, rfl⟩ := map_eq_ok.mp h
  intro k hk
  obtain ⟨e, he, rfl⟩ := List.mem_map.mp hk
  obtain ⟨f, hf, hread⟩ := partner_of_mem (mapM_eq_ok.mp hspecs) he
  obtain ⟨s, hs, rfl⟩ := map_eq_ok.mp hread
  obtain ⟨n, hn, hfind⟩ := List.mem_filterMap.mp hf
  have hname : f.name = n := by simpa using List.find?_some hfind
  have hkey : s.1.name = n := (fieldOf_name hs).trans hname
  exact hkey.symm ▸ hn

/-- The contract for deletes has no fields beside those in the list for deletes. -/
theorem delete_names (hr : resource ds d = .ok r) : ∀ k ∈ r.contracts.delete.names,
    k ∈ r.deleteBy := by
  obtain ⟨p, templates, hp, _, rfl⟩ := resource_ok_iff.mp hr
  obtain ⟨_, _, hdelete, _⟩ := contractsOf_ok hp.contracts
  exact readContract_names hdelete

theorem validate_refused {c : Contract} {input : Object} {k : String}
    (h : Keyed.has k (c.check input).errors = true) :
    c.validate input = .error (c.check input).errors := by
  unfold Contract.validate Validation.toExcept
  rw [if_neg fun hok => Validation.isOk_iff.mp hok k h]

/-- A filter with a key that neither the contract nor an extension knows is refused, with
    an error for the key. -/
theorem checkFilter_refuses (hr : resource ds d = .ok r) {c : Contract}
    (hc : c ∈ [r.contracts.get, r.contracts.list, r.contracts.delete]) {input : Object}
    {k : String} (hk : Keyed.has k input = true) (hname : k ∉ c.names)
    (hchild : r.isChildField k = false) :
    ∃ errors, r.checkFilter c input = .error errors ∧ Keyed.has k errors = true := by
  obtain ⟨raw, hraw⟩ := Option.isSome_iff_exists.mp hk
  cases hkid : r.isKid with
  | false =>
    have herror : Keyed.has k (c.check input).errors = true :=
      (Contract.has_errors_iff (filter_partial hr hc) input k).mpr ⟨raw, hraw, .inl hname⟩
    rw [Resource.checkFilter_of_plain (child_none hr hkid), validate_refused herror]
    exact ⟨_, rfl, herror⟩
  | true =>
    obtain ⟨own, hown⟩ := exists_own hr hkid
    have hback := fallsBack hr hc hown hkid
    have hmerged : k ∉ (c.merged own.partial).names := by
      rw [Contract.mem_merged_names, not_or, ← hback.own]
      exact ⟨hname, Bool.eq_false_iff.mp hchild⟩
    have herror : Keyed.has k ((c.merged own.partial).check input).errors = true :=
      (Contract.has_errors_iff rfl input k).mpr ⟨raw, hraw, .inl hmerged⟩
    have hsame := hback.sameOutcome_merged input
    rw [validate_refused herror] at hsame
    generalize r.checkFilter c input = outcome at hsame
    cases hsame with
    | @refused errors _ hkeys =>
      refine ⟨errors, rfl, ?_⟩
      rw [Keyed.has_iff_mem_keys, hkeys, ← Keyed.has_iff_mem_keys]
      exact herror

/-- The keys of an accepted filter of a delete are those that were sent, and each is in the
    list for deletes or an own field of a nested extension. -/
theorem delete_filter (hr : resource ds d = .ok r) {input filter : Object}
    (h : r.checkFilter r.contracts.delete input = .ok filter) (k : String) :
    (Keyed.has k filter = true ↔ Keyed.has k input = true) ∧
      (Keyed.has k filter = true → k ∈ r.deleteBy ∨ r.isChildField k = true) := by
  have hback {child : Contract} (hchild : r.contracts.child = some child) :
      r.FallsBack r.contracts.delete child := by
    cases hkid : r.isKid with
    | false =>
      rw [child_none hr hkid] at hchild
      contradiction
    | true =>
      obtain ⟨own, hown⟩ := exists_own hr hkid
      have hfalls := fallsBack hr (c := r.contracts.delete) (by simp) hown hkid
      rw [Option.some.inj (hchild.symm.trans hfalls.retries)]
      exact hfalls
  have hpart : r.contracts.delete.complete = false := filter_partial hr (by simp)
  obtain ⟨hkeys, hnames⟩ :=
    Resource.checkFilter_keys hpart (fun child hchild => (hback hchild).childPartial) h k
  refine ⟨hkeys, fun hk => ?_⟩
  rcases hnames hk with hname | ⟨child, hchild, hname⟩
  · exact .inl (delete_names hr k hname)
  · exact .inr (((hback hchild).own k).mpr hname)

end Compile

namespace Serving

variable {s : Serving}

/-! ## Requests -/

/-- Nothing is done in the store for a request that is not admitted. -/
theorem admitted_of_performs {w : Demand} {x : StoreAction}
    (h : (s.serve w).Performs (ServiceAction.store x)) : ∃ a, s.admission w = .ok a := by
  rw [serve_eq] at h
  simp only [Plan.performs_bind, Plan.performs_ofExcept, Plan.returns_ofExcept, false_or] at h
  obtain ⟨_, _, h | ⟨_, _, a, ha, _⟩⟩ := h
  · exact absurd h permit_performs
  · exact ⟨a, ha⟩

/-- The filter of a delete that does something in the store. -/
theorem delete_accepted {query : Object} {body : Option Json} {x : StoreAction}
    (h : (s.delete query body).Performs (ServiceAction.store x)) :
    ∃ input filter, deleteTarget query body = .ok input ∧ input ≠ [] ∧
      s.resource.checkFilter s.resource.contracts.delete input = .ok filter := by
  obtain ⟨a, ha⟩ := admitted_of_performs (w := .delete query body) h
  cases accepts_of_admission ha with
  | @delete _ input filter _ htarget hsent hfilter =>
    exact ⟨input, filter, htarget, hsent, hfilter⟩

/-- The statements of a delete are that of the filter that was accepted, and those that
    remove the deleted keys elsewhere. -/
theorem delete_statement (plain : s.hooks? = none) {query input filter : Object}
    {body : Option Json} (htarget : deleteTarget query body = .ok input)
    (hfilter : s.resource.checkFilter s.resource.contracts.delete input = .ok filter)
    {cmd : Sql.Command} (h : (s.delete query body).Performs (ServiceAction.store (.run cmd))) :
    (∃ t ∈ [s.resource.templates.delete, s.resource.templates.deleteDeep],
        s.resource.deleteCommand t filter = .ok cmd) ∨
      ∃ keys, s.resource.cleanupCommand? keys = some cmd := by
  refine (delete_runs plain h).imp_left ?_
  rintro ⟨input', filter', htarget', hinput', hrun⟩
  obtain rfl : input' = input := Except.ok.inj (htarget'.symm.trans htarget)
  obtain rfl : filter' = filter := Except.ok.inj ((deleteInput_ok hinput').2.symm.trans hfilter)
  exact hrun

/-- A delete whose filter is refused answers with the errors, once it is permitted. -/
theorem delete_refused {query input : Object} {body : Option Json} {errors : FieldErrors}
    (htarget : deleteTarget query body = .ok input) (hsent : input ≠ [])
    (h : s.resource.checkFilter s.resource.contracts.delete input = .error errors) :
    s.delete query body =
      (s.permit .delete (some (.obj input))).bind fun () => .fail (.invalid errors) := by
  have hinput : s.deleteInput input = .error (.invalid errors) := by
    unfold deleteInput
    rw [if_neg (by simpa using hsent), h]
    rfl
  unfold delete
  rw [htarget]
  show (s.permit .delete (some (.obj input))).bind (fun () =>
    (Plan.ofExcept (s.deleteInput input)).bind _) = _
  rw [hinput]
  rfl

/-- A delete by a key that is neither in the list nor an own field of a nested extension is
    refused for it, and does nothing in the store. -/
theorem delete_unlisted {ds : Declarations} {d : ResourceDecl}
    (hd : Compile.resource ds d = .ok s.resource) {query input : Object} {body : Option Json}
    (htarget : deleteTarget query body = .ok input) {k : String}
    (hk : Keyed.has k input = true) (hlist : k ∉ s.resource.deleteBy)
    (hchild : s.resource.isChildField k = false) :
    (∃ errors, Keyed.has k errors = true ∧
      s.delete query body =
        (s.permit .delete (some (.obj input))).bind fun () => .fail (.invalid errors)) ∧
    ∀ x, ¬ (s.delete query body).Performs (ServiceAction.store x) := by
  have hname : k ∉ s.resource.contracts.delete.names :=
    fun hname => hlist (Compile.delete_names hd k hname)
  obtain ⟨errors, hrefused, herror⟩ := Compile.checkFilter_refuses hd (by simp) hk hname hchild
  have hsent : input ≠ [] := by
    rintro rfl
    exact Bool.false_ne_true hk
  refine ⟨⟨errors, herror, delete_refused htarget hsent hrefused⟩, fun x h => ?_⟩
  obtain ⟨input', filter, htarget', _, hfilter⟩ := delete_accepted h
  obtain rfl : input' = input := Except.ok.inj (htarget'.symm.trans htarget)
  rw [hrefused] at hfilter
  contradiction

/-- Where all may delete and no other table has keys of the resource, the statement of an
    accepted filter is run. -/
theorem delete_open (plain : s.hooks? = none) (hallows : s.resource.allows .delete = true)
    (hopen : s.resource.permissions = none) (halone : s.resource.dependents = [])
    {query input filter : Object} {body : Option Json} (hshallow : isDeep query = false)
    (htarget : deleteTarget query body = .ok input) (hinput : s.deleteInput input = .ok filter)
    {cmd : Sql.Command}
    (hcmd : s.resource.deleteCommand s.resource.templates.delete filter = .ok cmd) :
    (s.delete query body).Performs (ServiceAction.store (.run cmd)) := by
  have hrun : (s.resource.remove filter (isDeep query)).Performs (StoreAction.run cmd) := by
    rw [hshallow]
    exact Resource.remove_runs halone hcmd
  unfold delete
  rw [htarget]
  show ((s.permit .delete (some (.obj input))).bind fun () =>
    (Plan.ofExcept (s.deleteInput input)).bind _).Performs _
  rw [permit_open hallows hopen, hinput]
  show (s.orOverride .delete none filter .ok (s.deleteRows filter (isDeep query))).Performs _
  rw [orOverride_plain plain, deleteRows_plain plain]
  exact (Plan.performs_bind _ _ _).mpr (.inl (performs_store.mpr hrun))

/-- What a delete without hooks does in the store it does for a filter that was accepted.
    The filter has the keys that were sent, and all of them are in the list for deletes
    exactly if no own field of a nested extension was sent that the list does not have. A
    request with a key that is neither is answered with an error for it, if it is permitted,
    and does nothing in the store. -/
theorem delete_keys_iff {ds : Declarations} {g : Registry} (hg : ds.resolve = .ok g)
    (hr : s.resource ∈ g.resources) (plain : s.hooks? = none) (query : Object)
    (body : Option Json) :
    (∀ cmd, (s.delete query body).Performs (ServiceAction.store (.run cmd)) →
      ∃ input filter, deleteTarget query body = .ok input ∧
        s.resource.checkFilter s.resource.contracts.delete input = .ok filter ∧
        ((∃ t ∈ [s.resource.templates.delete, s.resource.templates.deleteDeep],
            s.resource.deleteCommand t filter = .ok cmd) ∨
          ∃ keys, s.resource.cleanupCommand? keys = some cmd) ∧
        (∀ k, Keyed.has k filter = true ↔ Keyed.has k input = true) ∧
        (∀ k, Keyed.has k filter = true →
          k ∈ s.resource.deleteBy ∨ s.resource.isChildField k = true) ∧
        ((∀ k, Keyed.has k filter = true → k ∈ s.resource.deleteBy) ↔
          ∀ k, Keyed.has k input = true → s.resource.isChildField k = true →
            k ∈ s.resource.deleteBy)) ∧
    ∀ input k, deleteTarget query body = .ok input → Keyed.has k input = true →
      k ∉ s.resource.deleteBy → s.resource.isChildField k = false →
        (∃ errors, Keyed.has k errors = true ∧
          s.delete query body =
            (s.permit .delete (some (.obj input))).bind fun () => .fail (.invalid errors)) ∧
        ∀ x, ¬ (s.delete query body).Performs (ServiceAction.store x) := by
  obtain ⟨d, _, hd⟩ := Compile.mem_resolved hg hr
  constructor
  · intro cmd h
    obtain ⟨input, filter, htarget, hsent, hfilter⟩ := delete_accepted h
    have hkeys := Compile.delete_filter hd hfilter
    refine ⟨input, filter, htarget, hfilter, delete_statement plain htarget hfilter h,
      fun k => (hkeys k).1, fun k => (hkeys k).2, ?_⟩
    constructor
    · exact fun hall k hk _ => hall k ((hkeys k).1.mpr hk)
    · intro hown k hk
      rcases (hkeys k).2 hk with hlist | hchild
      · exact hlist
      · exact hown k ((hkeys k).1.mp hk) hchild
  · intro input k htarget hk hlist hchild
    exact delete_unlisted hd htarget hk hlist hchild

/-- The operator of a key. -/
def thirdOperator : Object := [("id", .ofInt 3)]

/-- The operators in a city. -/
def operatorsInParis : Object := [("city", .str "Paris")]

/-- Whoever likes deletes the operators that pass an accepted filter. -/
theorem operators_deleted (filter : Object) (cmd : Sql.Command) (hne : filter ≠ [])
    (htarget : deleteTarget [] (some (.obj filter)) = .ok filter)
    (h : (Compile.writtenResources Declarations.staff).toOption.any (·.any fun r =>
      r.name = "Operator" && decide (r.deleteBy = ["id"] ∧ r.childFields = ["city", "rating"] ∧
        r.allows .delete = true ∧ r.permissions = none ∧ r.dependents = [] ∧
        (r.checkFilter r.contracts.delete filter).toOption = some filter ∧
        (r.deleteCommand r.templates.delete filter).toOption = some cmd)) = true) :
    ∃ g, Declarations.staff.resolve = .ok g ∧ ∃ r ∈ g.resources, r.deleteBy = ["id"] ∧
      r.childFields = ["city", "rating"] ∧
      r.checkFilter r.contracts.delete filter = .ok filter ∧
      ((openly g r).delete [] (some (.obj filter))).Performs
        (ServiceAction.store (.run cmd)) := by
  obtain ⟨g, hg, r, hr, _, hP⟩ := Compile.exists_operators _ h
  obtain ⟨hlist, hchildren, hallows, hopen, halone, hfilter, hcmd⟩ := of_decide_eq_true hP
  have hok := toOption_eq_some.mp hfilter
  have hinput : (openly g r).deleteInput filter = .ok filter := by
    unfold deleteInput
    rw [if_neg (by simpa using hne), show (openly g r).resource = r from rfl, hok]
    rfl
  exact ⟨g, hg, r, hr, hlist, hchildren, hok, delete_open (s := openly g r) rfl hallows hopen
    halone rfl htarget hinput (toOption_eq_some.mp hcmd)⟩

/-- Deletes the actor of a key. -/
def deleteByKey : Sql.Command :=
  ⟨"WITH rows AS (DELETE FROM \"actor\" WHERE \"actor\".\"id\" = $1::int RETURNING 1) " ++
    "SELECT count(*) FROM rows", [.text (some "3")]⟩

theorem delete_keys_iff_staff :
    ∃ g, Declarations.staff.resolve = .ok g ∧ ∃ r ∈ g.resources,
      ((openly g r).delete [] (some (.obj thirdOperator))).Performs
        (ServiceAction.store (.run deleteByKey)) ∧
      (∃ filter, r.checkFilter r.contracts.delete thirdOperator = .ok filter ∧
        ∀ k, Keyed.has k filter = true → k ∈ r.deleteBy) ∧
      ∃ errors, Keyed.has "name" errors = true ∧
        (openly g r).delete [] (some (.obj [("name", .str "Ann")])) =
          ((openly g r).permit .delete (some (.obj [("name", .str "Ann")]))).bind fun () =>
            .fail (.invalid errors) := by
  obtain ⟨g, hg, r, hr, hlist, hchildren, _, hrun⟩ := operators_deleted thirdOperator deleteByKey
    (by decide) rfl (by decide +kernel)
  have hnames := delete_keys_iff (s := openly g r) hg hr rfl [] (some (.obj [("name", .str "Ann")]))
  obtain ⟨input, filter, htarget, hfilter, _, _, _, hiff⟩ :=
    (delete_keys_iff (s := openly g r) hg hr rfl [] (some (.obj thirdOperator))).1 _ hrun
  obtain rfl : thirdOperator = input := Except.ok.inj htarget
  refine ⟨g, hg, r, hr, hrun, ⟨filter, hfilter, hiff.mpr fun k hk hchild => ?_⟩, ?_⟩
  · have hid : k = "id" := by simpa [thirdOperator, Keyed.has, Keyed.find?] using hk
    rw [hid, show (openly g r).resource.deleteBy = ["id"] from hlist]
    exact List.mem_singleton_self "id"
  · refine (hnames.2 [("name", .str "Ann")] "name" rfl rfl ?_ ?_).1
    · rw [show (openly g r).resource.deleteBy = ["id"] from hlist]
      decide
    · unfold Resource.isChildField
      rw [show (openly g r).resource.childFields = ["city", "rating"] from hchildren]
      decide

/-! ## A delete by another field -/

/-- Deletes the actors of a city. -/
def deleteByCity : Sql.Command :=
  ⟨"WITH rows AS (DELETE FROM \"actor\" WHERE (\"actor\".\"details\"->'city') ? $1 " ++
    "RETURNING 1) SELECT count(*) FROM rows", [.text (some "Paris")]⟩

/-- Operators are deleted by their city, which is not in the list for deletes. -/
theorem deleted_by_city :
    ∃ g, Declarations.staff.resolve = .ok g ∧ ∃ r ∈ g.resources, r.deleteBy = ["id"] ∧
      r.checkFilter r.contracts.delete operatorsInParis = .ok operatorsInParis ∧
      ((openly g r).delete [] (some (.obj operatorsInParis))).Performs
        (ServiceAction.store (.run deleteByCity)) := by
  obtain ⟨g, hg, r, hr, hlist, _, hok, hrun⟩ := operators_deleted operatorsInParis deleteByCity
    (by decide) rfl (by decide +kernel)
  exact ⟨g, hg, r, hr, hlist, hok, hrun⟩

end Serving

end RowServe
