import RowServe.Proofs.Contract.Keys
import RowServe.Proofs.Resource.Parts
import RowServe.Request.Filter

/-!
# Keys of accepted filters

An accepted filter has the keys of the filter that was sent, no more and no fewer, and
every one of them is a field of the resource. This holds for nested extensions as well,
whose own fields are checked by themselves.

Results:

* `checkFilter_keys`: the keys of a filter stay the same.
* `checkFilter_fields`: the keys of an accepted filter are fields.
-/

namespace RowServe

namespace Resource

variable {r : Resource} {c : Contract} {input filter : Object}

/-- A filter is accepted by the contract alone, or with the help of the own fields of a
    nested extension: then these are all that the contract refused. -/
theorem checkFilter_ok (h : r.checkFilter c input = .ok filter) :
    ((c.check input).errors = [] ∧ filter = (c.check input).valid) ∨
      ∃ (child : Contract) (own : List String), r.contracts.child = some child ∧
        (∀ k, Keyed.has k (c.check input).errors = true → own.contains k = true) ∧
        (child.check (input.filter fun e => own.contains e.1)).errors = [] ∧
        filter = (c.check input).valid.union
          (child.check (input.filter fun e => own.contains e.1)).valid := by
  unfold checkFilter at h
  dsimp only at h
  split_ifs at h with hok
  · exact .inl ⟨List.isEmpty_iff.mp hok, (Except.ok.inj h).symm⟩
  · cases hchild : r.contracts.child with
    | none =>
      rw [hchild] at h
      contradiction
    | some child =>
      rw [hchild] at h
      dsimp only at h
      unfold retryOwn at h
      dsimp only at h
      generalize (c.check input).errors.keys.filter r.isChildField = own at h
      split_ifs at h with _ hsecond hothers
      refine .inr ⟨child, own, rfl, fun k hk => ?_, ?_, (Except.ok.inj h).symm⟩
      · by_contra hown
        have hmem : Keyed.has k ((c.check input).errors.filter fun e => !own.contains e.1) =
            true := by
          rw [Keyed.has_filter _ (fun k => !own.contains k)]
          exact ⟨by simpa using hown, hk⟩
        have hnone : (c.check input).errors.filter (fun e => !own.contains e.1) = [] := by
          simpa using hothers
        rw [hnone] at hmem
        exact absurd hmem (by simp [Keyed.has])
      · simpa [Validation.isOk] using hsecond

/-- The keys of a filter stay the same, and each is a field of one of the contracts. -/
theorem checkFilter_keys (hpart : c.complete = false)
    (hchild : ∀ child, r.contracts.child = some child → child.complete = false)
    (h : r.checkFilter c input = .ok filter) (k : String) :
    (Keyed.has k filter = true ↔ Keyed.has k input = true) ∧
      (Keyed.has k filter = true →
        k ∈ c.names ∨ ∃ child, r.contracts.child = some child ∧ k ∈ child.names) := by
  rcases checkFilter_ok h with ⟨herrors, rfl⟩ | ⟨child, own, hsome, hown, hsecond, rfl⟩
  · refine ⟨⟨fun hk => (Contract.check_valid_keys hpart hk).1, fun hk => ?_⟩,
      fun hk => .inl (Contract.check_valid_keys hpart hk).2⟩
    rcases Contract.check_keys (c := c) hk with hvalid | herror
    · exact hvalid
    · rw [herrors] at herror
      exact absurd herror (by simp [Keyed.has])
  · have hpart' := hchild child hsome
    rw [Keyed.has_union]
    refine ⟨⟨?_, fun hk => ?_⟩, ?_⟩
    · rintro (hk | hk)
      · exact (Contract.check_valid_keys hpart hk).1
      · exact ((Keyed.has_filter input own.contains k).mp
          (Contract.check_valid_keys hpart' hk).1).2
    · rcases Contract.check_keys (c := c) hk with hvalid | herror
      · exact .inl hvalid
      · have hinput : Keyed.has k (input.filter fun e => own.contains e.1) = true :=
          (Keyed.has_filter input own.contains k).mpr ⟨hown k herror, hk⟩
        rcases Contract.check_keys (c := child) hinput with hvalid | herror'
        · exact .inr hvalid
        · rw [hsecond] at herror'
          exact absurd herror' (by simp [Keyed.has])
    · rintro (hk | hk)
      · exact .inl (Contract.check_valid_keys hpart hk).2
      · exact .inr ⟨child, hsome, (Contract.check_valid_keys hpart' hk).2⟩

end Resource

namespace Compile

/-! ## Names of contracts -/

theorem fieldOf_name {d : FieldDecl} {e : FieldSpec × Shape} (h : Contract.fieldOf d = .ok e) :
    e.1.name = d.name := by
  obtain ⟨spec, hspec, rfl⟩ := map_eq_ok.mp h
  exact FieldSpec.ofDecl_name hspec

theorem readContract_ok {list : Bool} {linked : List Linked} {nested : List (String × Contract)}
    {fields : List Field} {names : List String} {c : Contract}
    (h : readContract list linked nested fields names = .ok c) :
    c.complete = false ∧ ∀ k ∈ c.names, ∃ f ∈ fields, f.name = k := by
  obtain ⟨specs, hspecs, rfl⟩ := map_eq_ok.mp h
  refine ⟨rfl, fun k hk => ?_⟩
  obtain ⟨e, he, rfl⟩ := List.mem_map.mp hk
  obtain ⟨f, hf, hread⟩ := partner_of_mem (mapM_eq_ok.mp hspecs) he
  obtain ⟨e', he', rfl⟩ := map_eq_ok.mp hread
  obtain ⟨n, _, hfind⟩ := List.mem_filterMap.mp hf
  exact ⟨f, List.mem_of_find?_eq_some hfind, (fieldOf_name he').symm⟩

theorem childContract_ok {kid parent : ResourceDecl} {c : Contract}
    (h : childContract kid parent = .ok c) :
    ∀ k ∈ c.names, ∃ d ∈ ownFields kid parent, d.name = k := by
  obtain ⟨specs, hspecs, rfl⟩ := map_eq_ok.mp h
  intro k hk
  obtain ⟨e, he, rfl⟩ := List.mem_map.mp hk
  obtain ⟨d, hd, hread⟩ := partner_of_mem (mapM_eq_ok.mp hspecs) he
  exact ⟨d, hd, (fieldOf_name hread).symm⟩

/-- The contracts of requests with a filter, and that of the own fields of an extension. -/
theorem contractsOf_ok {d : ResourceDecl} {parent : Option ResourceDecl} {pk : FieldDecl}
    {pkFromSession : Bool} {lists : Lists} {fields : List Field} {linked : List Linked}
    {nested : List (String × Contract)} {cs : Contracts}
    (h : contractsOf d parent pk pkFromSession lists fields linked nested = .ok cs) :
    readContract false linked nested fields lists.getBy = .ok cs.get ∧
      readContract true linked nested fields lists.listBy = .ok cs.list ∧
      readContract false linked nested fields lists.deleteBy = .ok cs.delete ∧
      ∀ child, cs.child = some child → ∃ q own, parent = some q ∧
        childContract d q = .ok own ∧ child = own.partial := by
  unfold contractsOf at h
  simp only [bind_eq_ok] at h
  obtain ⟨post, _, get, hget, list, hlist, delete, hdelete, update, _, hrest⟩ := h
  cases parent with
  | none =>
    obtain ⟨child, hchild, he⟩ := bind_eq_ok.mp hrest
    rw [← Except.ok.inj he]
    refine ⟨hget, hlist, hdelete, fun child' hsome => ?_⟩
    rw [← Except.ok.inj hchild] at hsome
    contradiction
  | some q =>
    obtain ⟨child, hchild, he⟩ := bind_eq_ok.mp hrest
    obtain ⟨own, hown, rfl⟩ := map_eq_ok.mp hchild
    rw [← Except.ok.inj he]
    refine ⟨hget, hlist, hdelete, fun child' hsome => ?_⟩
    exact ⟨q, own, rfl, hown, (Option.some.inj hsome).symm⟩

/-- The own fields of a nested extension are fields of it. -/
theorem own_field {ds : Declarations} {d : ResourceDecl} {p : Parts} (hp : p.Valid ds d)
    {q : ResourceDecl} (hq : p.parent = some q) {e : FieldDecl} (he : e ∈ ownFields d q) :
    ∃ f ∈ p.fields ds d, f.decl = e := by
  have hparent := hp.parent
  have howner : p.owner d = q := by
    unfold Parts.owner
    rw [hq]
    rfl
  rw [hq] at hparent
  unfold parentOf at hparent
  cases hext : d.info.extendsOn with
  | none =>
    rw [hext] at hparent
    exact absurd (Except.ok.inj hparent) (by simp)
  | some ext =>
    refine ⟨fieldOf ds q (.extension ext.column) e, ?_, rfl⟩
    unfold Parts.fields fieldsOf
    rw [hext, howner]
    exact List.mem_append_right _ (List.mem_map_of_mem he)

/-- The contracts of a compiled resource that filters are checked by. -/
theorem filter_contract {ds : Declarations} {d : ResourceDecl} {p : Parts} (hp : p.Valid ds d)
    {c : Contract} (hc : c ∈ [p.contracts.get, p.contracts.list, p.contracts.delete]) :
    c.complete = false ∧ ∀ k ∈ c.names, ∃ f ∈ p.fields ds d, f.name = k := by
  obtain ⟨hget, hlist, hdelete, _⟩ := contractsOf_ok hp.contracts
  simp only [List.mem_cons, List.not_mem_nil, or_false] at hc
  rcases hc with rfl | rfl | rfl
  · exact readContract_ok hget
  · exact readContract_ok hlist
  · exact readContract_ok hdelete

/-- The keys of an accepted filter are those that were sent, and all of them are fields. -/
theorem checkFilter_fields {ds : Declarations} {g : Registry} (hg : ds.resolve = .ok g)
    {r : Resource} (hr : r ∈ g.resources) {c : Contract}
    (hc : c ∈ [r.contracts.get, r.contracts.list, r.contracts.delete]) {input filter : Object}
    (h : r.checkFilter c input = .ok filter) (k : String) :
    (Keyed.has k filter = true ↔ Keyed.has k input = true) ∧
      (Keyed.has k filter = true → ∃ f ∈ r.fields, f.name = k) := by
  obtain ⟨d, _, hd⟩ := mem_resolved hg hr
  obtain ⟨p, templates, hp, _, rfl⟩ := resource_ok_iff.mp hd
  obtain ⟨hpart, hfields⟩ := filter_contract hp hc
  obtain ⟨_, _, _, hchild⟩ := contractsOf_ok hp.contracts
  have hparts : ∀ child, (p.resource ds d templates).contracts.child = some child →
      child.complete = false := by
    intro child hsome
    obtain ⟨_, own, _, _, rfl⟩ := hchild child hsome
    rfl
  obtain ⟨hkeys, hnames⟩ := Resource.checkFilter_keys hpart hparts h k
  refine ⟨hkeys, fun hk => ?_⟩
  rcases hnames hk with hname | ⟨child, hsome, hname⟩
  · exact hfields k hname
  · obtain ⟨q, own, hq, hown, rfl⟩ := hchild child hsome
    obtain ⟨e, he, rfl⟩ := childContract_ok hown k hname
    obtain ⟨f, hf, rfl⟩ := own_field hp hq he
    exact ⟨f, hf, rfl⟩

end Compile

end RowServe
