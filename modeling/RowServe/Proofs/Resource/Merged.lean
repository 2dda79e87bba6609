import RowServe.Proofs.Contract.Fieldwise
import RowServe.Proofs.Declaration.Plain
import RowServe.Proofs.Resource.Writes

/-!
# One contract for two checks

The filter of a nested extension is checked twice: by a contract of the resource, and what
that refuses of the own fields of the extension once more by these fields. The two checks
come to the same as a single one, by the contract with the own fields it does not have
added. The messages may be others, the keys they are about are not.

Results:

* `sameOutcome_merged`: two checks of which the second only knows more are one check.
* `checkFilter_merged`: the filters of a compiled resource are checked like this.
-/

namespace RowServe

/-- Both accept the same object, or both refuse, with errors for the same keys. -/
inductive SameOutcome : Except FieldErrors Object → Except FieldErrors Object → Prop where
  | accepted (valid : Object) : SameOutcome (.ok valid) (.ok valid)
  | refused {errors errors' : FieldErrors} (h : errors.keys = errors'.keys) :
      SameOutcome (.error errors) (.error errors')

namespace Contract

/-- The partial contract of the fields of two contracts; where both have a name, the
    first one counts. -/
def merged (c child : Contract) : Contract :=
  ⟨false, c.fields ++ child.fields.filter fun e => !c.names.contains e.1.name⟩

variable {c child : Contract} {k : String}

theorem mem_merged_names : k ∈ (c.merged child).names ↔ k ∈ c.names ∨ k ∈ child.names := by
  unfold merged names
  dsimp only
  rw [List.map_append, List.mem_append]
  constructor
  · rintro (h | h)
    · exact .inl h
    · obtain ⟨e, he, rfl⟩ := List.mem_map.mp h
      exact .inr (List.mem_map_of_mem (List.mem_of_mem_filter he))
  · rintro (h | h)
    · exact .inl h
    · obtain ⟨e, he, rfl⟩ := List.mem_map.mp h
      by_cases hc : e.1.name ∈ c.fields.map (·.1.name)
      · exact .inl hc
      · exact .inr (List.mem_map_of_mem (List.mem_filter.mpr ⟨he, by simpa [names] using hc⟩))

/-- The fields of a name are those of the first contract that has the name. -/
theorem mem_merged_fields {e : FieldSpec × Shape} :
    e ∈ (c.merged child).fields ↔ e ∈ c.fields ∨ (e.1.name ∉ c.names ∧ e ∈ child.fields) := by
  unfold merged
  rw [List.mem_append, List.mem_filter]
  simp [and_comm]

theorem lastTaken_merged (c child : Contract) (k : String) (raw : Json) :
    lastTaken (c.merged child).fields k raw =
      if k ∈ c.names then lastTaken c.fields k raw else lastTaken child.fields k raw := by
  unfold merged
  dsimp only
  rw [lastTaken_append]
  split_ifs with hk
  · have hnone : lastTaken (child.fields.filter fun e => !c.names.contains e.1.name) k raw =
        none := by
      refine lastTaken_of_absent (fun e he hname => ?_) raw
      have hno := (List.mem_filter.mp he).2
      rw [hname] at hno
      simp [hk] at hno
    rw [hnone]
    rfl
  · have hnone : lastTaken c.fields k raw = none :=
      lastTaken_of_absent (fun e he hname => hk (List.mem_map.mpr ⟨e, he, hname⟩)) raw
    rw [hnone, Option.or_none]
    refine lastTaken_filter (fun e _ hname => ?_) raw
    rw [hname]
    simpa using hk

end Contract

namespace Resource

/-! ## Two checks -/

/-- The second contract knows exactly the own fields, and all that the first knows of them. -/
structure FallsBack (r : Resource) (c child : Contract) : Prop where
  retries : r.contracts.child = some child
  isPartial : c.complete = false
  childPartial : child.complete = false
  own : ∀ k, r.isChildField k = true ↔ k ∈ child.names
  shared : ∀ e ∈ c.fields, e.1.name ∈ child.names → e ∈ child.fields

/-- The keys that are checked again. -/
def retried (r : Resource) (v : Validation) : List String := v.errors.keys.filter r.isChildField

/-- The errors of the others. -/
def others (r : Resource) (v : Validation) : FieldErrors :=
  v.errors.filter fun e => !(r.retried v).contains e.1

variable (r : Resource) (c child : Contract) (input : Object)

/-- The second check. -/
def secondCheck : Validation :=
  child.check (input.filter fun e => (r.retried (c.check input)).contains e.1)

variable {r c child} {k : String}

theorem mem_retried {v : Validation} :
    (r.retried v).contains k = true ↔
      Keyed.has k v.errors = true ∧ r.isChildField k = true := by
  unfold retried
  rw [List.contains_iff_mem, List.mem_filter, ← Keyed.has_iff_mem_keys]

theorem has_others {v : Validation} :
    Keyed.has k (r.others v) = true ↔ Keyed.has k v.errors = true ∧ r.isChildField k = false := by
  unfold others
  rw [Keyed.has_filter _ fun k => !(r.retried v).contains k, Bool.not_eq_true', Bool.eq_false_iff,
    Ne, mem_retried, Bool.eq_false_iff, and_comm]
  exact and_congr_right fun herror => not_congr (and_iff_right herror)

theorem find?_retried :
    Keyed.find? k (input.filter fun e => (r.retried (c.check input)).contains e.1) =
      if (r.retried (c.check input)).contains k then input.find? k else none :=
  Keyed.find?_filter input (fun k => (r.retried (c.check input)).contains k) k

namespace FallsBack

variable (h : r.FallsBack c child)

include h

theorem second_errors :
    Keyed.has k (r.secondCheck c child input).errors = true ↔
      Keyed.has k (c.check input).errors = true ∧ k ∈ child.names ∧
        ∃ raw, input.find? k = some raw ∧
          ∃ e ∈ child.fields, e.1.name = k ∧ (Contract.answer e raw).toOption = none := by
  unfold secondCheck
  rw [Contract.has_errors_iff h.childPartial, find?_retried]
  constructor
  · rintro ⟨raw, hraw, hrefused⟩
    split_ifs at hraw with hretried
    obtain ⟨herror, hchild⟩ := mem_retried.mp hretried
    have hname := (h.own k).mp hchild
    exact ⟨herror, hname, raw, hraw, hrefused.resolve_left fun hno => hno hname⟩
  · rintro ⟨herror, hname, raw, hraw, hrefused⟩
    rw [if_pos (mem_retried.mpr ⟨herror, (h.own k).mpr hname⟩)]
    exact ⟨raw, hraw, .inr hrefused⟩

/-- The merged contract refuses what the first check refuses and the second one does not
    look at, and what the second one refuses. -/
theorem merged_errors :
    Keyed.has k ((c.merged child).check input).errors = true ↔
      Keyed.has k (r.others (c.check input)) = true ∨
        Keyed.has k (r.secondCheck c child input).errors = true := by
  rw [has_others, Bool.eq_false_iff, Ne, h.own, h.second_errors, Contract.has_errors_iff rfl,
    Contract.has_errors_iff h.isPartial, Contract.mem_merged_names, not_or]
  constructor
  · rintro ⟨raw, hraw, ⟨hc, hchild⟩ | ⟨e, he, rfl, hnone⟩⟩
    · exact .inl ⟨⟨raw, hraw, .inl hc⟩, hchild⟩
    · rcases Contract.mem_merged_fields.mp he with he | ⟨hc, he⟩
      · by_cases hchild : e.1.name ∈ child.names
        · exact .inr ⟨⟨raw, hraw, .inr ⟨e, he, rfl, hnone⟩⟩, hchild, raw, hraw, e,
            h.shared e he hchild, rfl, hnone⟩
        · exact .inl ⟨⟨raw, hraw, .inr ⟨e, he, rfl, hnone⟩⟩, hchild⟩
      · exact .inr ⟨⟨raw, hraw, .inl hc⟩, List.mem_map_of_mem he, raw, hraw, e, he, rfl, hnone⟩
  · rintro (⟨⟨raw, hraw, hc | ⟨e, he, hname, hnone⟩⟩, hchild⟩ |
      ⟨⟨raw, hraw, hfirst⟩, hchild, raw', hraw', e, he, hname, hnone⟩)
    · exact ⟨raw, hraw, .inl ⟨hc, hchild⟩⟩
    · exact ⟨raw, hraw, .inr ⟨e, Contract.mem_merged_fields.mpr (.inl he), hname, hnone⟩⟩
    · obtain rfl : raw = raw' := Option.some.inj (hraw.symm.trans hraw')
      refine ⟨raw, hraw, .inr ?_⟩
      rcases hfirst with hc | ⟨f, hf, hfname, hfnone⟩
      · exact ⟨e, Contract.mem_merged_fields.mpr (.inr ⟨hname ▸ hc, he⟩), hname, hnone⟩
      · exact ⟨f, Contract.mem_merged_fields.mpr (.inl hf), hfname, hfnone⟩

/-- With no own field among what was refused, the merged contract refuses the same. -/
theorem merged_errors_of_none (hempty : r.retried (c.check input) = []) :
    Keyed.has k (c.check input).errors = true ↔
      Keyed.has k ((c.merged child).check input).errors = true := by
  rw [h.merged_errors, has_others, h.second_errors, ← h.own]
  constructor
  · intro herror
    refine .inl ⟨herror, Bool.eq_false_iff.mpr fun hchild => ?_⟩
    have hretried := mem_retried.mpr ⟨herror, hchild⟩
    rw [hempty] at hretried
    exact Bool.false_ne_true hretried
  · rintro (⟨herror, _⟩ | ⟨herror, _⟩)
    · exact herror
    · exact herror

/-- Of the keys that the first contract has, the second check refuses all that it looks at:
    it knows the same fields of them. -/
theorem second_refuses (hname : k ∈ c.names)
    (hk : (r.retried (c.check input)).contains k = true) :
    Keyed.has k (r.secondCheck c child input).errors = true := by
  obtain ⟨herror, hchild⟩ := mem_retried.mp hk
  obtain ⟨raw, hraw, hrefused⟩ := (Contract.has_errors_iff h.isPartial input k).mp herror
  obtain ⟨e, he, rfl, hnone⟩ := hrefused.resolve_left fun hno => hno hname
  have hown := (h.own e.1.name).mp hchild
  exact (h.second_errors input).mpr
    ⟨herror, hown, raw, hraw, e, h.shared e he hown, rfl, hnone⟩

/-- An object that the merged contract accepts is put together from both checks. -/
theorem merged_valid (hok : ((c.merged child).check input).errors = []) :
    ((c.merged child).check input).valid =
      (c.check input).valid.union (r.secondCheck c child input).valid := by
  have hsecond : (r.secondCheck c child input).Ordered := Contract.ordered_check child _
  refine Keyed.Sorted.eq_of_find? (Contract.ordered_check _ _).valid
    (Keyed.sorted_union (Contract.ordered_check _ _).valid _) fun k => ?_
  have hnone := (h.merged_errors (k := k) input).not.mp (by simp [hok, Keyed.has])
  obtain ⟨hfirst, hagain⟩ := not_or.mp hnone
  rw [Keyed.find?_union _ hsecond.valid, Contract.find?_valid rfl, Contract.find?_valid h.isPartial]
  unfold secondCheck
  rw [Contract.find?_valid h.childPartial, find?_retried]
  cases hraw : input.find? k with
  | none => simp
  | some raw =>
    rw [Option.bind_some, Option.bind_some, Contract.lastTaken_merged]
    by_cases hc : k ∈ c.names
    · have hkept : ¬ (r.retried (c.check input)).contains k = true :=
        fun hretried => hagain (h.second_refuses input hc hretried)
      rw [if_pos hc, if_neg hkept]
      rfl
    · have herror : Keyed.has k (c.check input).errors = true :=
        (Contract.has_errors_iff h.isPartial input k).mpr ⟨raw, hraw, .inl hc⟩
      have hchild : r.isChildField k = true := by
        by_contra hno
        exact hfirst (has_others.mpr ⟨herror, Bool.eq_false_iff.mpr hno⟩)
      have hunknown : Contract.lastTaken c.fields k raw = none :=
        Contract.lastTaken_of_absent (fun e he hname => hc (List.mem_map.mpr ⟨e, he, hname⟩)) raw
      rw [if_neg hc, if_pos (mem_retried.mpr ⟨herror, hchild⟩), hunknown, Option.or_none]
      rfl

/-- With nothing to check again, the second check finds nothing. -/
theorem second_valid (hok : (c.check input).errors = []) :
    (r.secondCheck c child input).valid = [] := by
  refine Keyed.Sorted.eq_of_find? (Contract.ordered_check _ _).valid List.Pairwise.nil fun k => ?_
  unfold secondCheck retried
  rw [hok, Contract.find?_valid h.childPartial, Keyed.find?_filter]
  rfl

/-- The second check has something to tell of each key that is checked again. -/
theorem second_tells (hk : (r.retried (c.check input)).contains k = true) :
    (r.secondCheck c child input).Tells k := by
  obtain ⟨raw, hraw, _⟩ := (Contract.has_errors_iff h.isPartial input k).mp (mem_retried.mp hk).1
  refine Contract.check_keys (c := child) ?_
  unfold Keyed.has
  rw [find?_retried, if_pos hk, hraw]
  rfl

end FallsBack

theorem retryOwn_eq (r : Resource) (c child : Contract) (input : Object) :
    r.retryOwn child (c.check input) input =
      let v := c.check input
      let second := r.secondCheck c child input
      if (r.retried v).isEmpty then .error v.errors
      else if !second.isOk then .error ((r.others v).union second.errors)
      else if !(r.others v).isEmpty then .error (r.others v)
      else if second.valid.isEmpty then .error v.errors
      else .ok (v.valid.union second.valid) := rfl

/-- Errors for the same keys as those of a check are the outcome of this check. -/
theorem sameOutcome_of_keys {errors : FieldErrors} {m : Validation} (hm : m.errors.Sorted)
    (hsorted : errors.Sorted) (hne : errors ≠ [])
    (h : ∀ k, Keyed.has k errors = true ↔ Keyed.has k m.errors = true) :
    SameOutcome (.error errors) m.toExcept := by
  have hkeys : errors.keys = m.errors.keys := hsorted.keys_eq hm h
  have hrefused : m.isOk = false := by
    unfold Validation.isOk
    rw [List.isEmpty_eq_false_iff]
    intro hempty
    rw [hempty] at hkeys
    exact hne (List.map_eq_nil_iff.mp hkeys)
  unfold Validation.toExcept
  rw [hrefused]
  exact .refused hkeys

namespace FallsBack

variable (h : r.FallsBack c child)

include h

/-- Where nothing is left to refuse, both checks together are the merged one. -/
theorem sameOutcome_of_none
    (hnone : ∀ k, ¬ (Keyed.has k (r.others (c.check input)) = true ∨
      Keyed.has k (r.secondCheck c child input).errors = true)) :
    SameOutcome (.ok ((c.check input).valid.union (r.secondCheck c child input).valid))
      ((c.merged child).check input).toExcept := by
  have hok : ((c.merged child).check input).errors = [] :=
    Keyed.eq_nil_of_has fun k hk => hnone k ((h.merged_errors input).mp hk)
  unfold Validation.toExcept Validation.isOk
  rw [hok, h.merged_valid input hok]
  exact .accepted _

/-- The second check after one that has refused something. -/
theorem sameOutcome_retryOwn (hne : (c.check input).errors ≠ []) :
    SameOutcome (r.retryOwn child (c.check input) input)
      ((c.merged child).check input).toExcept := by
  have hmerged := (Contract.ordered_check (c.merged child) input).errors
  have hfirst := (Contract.ordered_check c input).errors
  have hothers : (r.others (c.check input)).Sorted := hfirst.sublist List.filter_sublist
  rw [retryOwn_eq]
  dsimp only
  split_ifs with hempty hsecond hrest hvalid
  · -- the own fields have no part in what was refused
    exact sameOutcome_of_keys hmerged hfirst hne fun k =>
      h.merged_errors_of_none input (List.isEmpty_iff.mp hempty)
  · rw [Bool.not_eq_true', Bool.eq_false_iff, Ne, Validation.isOk_iff] at hsecond
    refine sameOutcome_of_keys hmerged (Keyed.sorted_union hothers _) (fun hnil => ?_) fun k => ?_
    · refine hsecond fun k hk => ?_
      have hunion := (Keyed.has_union (r.others (c.check input)) _ k).mpr (.inr hk)
      rw [hnil] at hunion
      exact Bool.false_ne_true hunion
    · rw [Keyed.has_union, h.merged_errors]
  · have hagain := Validation.isOk_iff.mp (by simpa using hsecond)
    refine sameOutcome_of_keys hmerged hothers (by simpa using hrest) fun k => ?_
    rw [h.merged_errors]
    exact (or_iff_left (hagain k)).symm
  · -- what is checked again and not refused is found valid
    have hagain := Validation.isOk_iff.mp (by simpa using hsecond)
    obtain ⟨k, hk⟩ := List.exists_mem_of_ne_nil (r.retried (c.check input))
      fun hnil => hempty (List.isEmpty_iff.mpr hnil)
    rcases h.second_tells input (List.contains_iff_mem.mpr hk) with hfound | herror
    · rw [List.isEmpty_iff.mp hvalid] at hfound
      exact absurd hfound Bool.false_ne_true
    · exact absurd herror (hagain k)
  · have hagain := Validation.isOk_iff.mp (by simpa using hsecond)
    have hrest : r.others (c.check input) = [] := by simpa using hrest
    refine h.sameOutcome_of_none input fun k => ?_
    rw [hrest]
    rintro (hk | hk)
    · exact Bool.false_ne_true hk
    · exact hagain k hk

/-- Checking the own fields again is checking once by the merged contract. -/
theorem sameOutcome_merged :
    SameOutcome (r.checkFilter c input) ((c.merged child).validate input) := by
  unfold checkFilter Contract.validate
  dsimp only
  split_ifs with hok
  · have herrors : (c.check input).errors = [] := List.isEmpty_iff.mp hok
    have hboth := h.sameOutcome_of_none input fun k => by
      rw [has_others, h.second_errors, herrors]
      rintro (⟨hk, _⟩ | ⟨hk, _⟩)
      · exact Bool.false_ne_true hk
      · exact Bool.false_ne_true hk
    rw [h.second_valid input herrors] at hboth
    exact hboth
  · rw [h.retries]
    exact h.sameOutcome_retryOwn input fun herrors => hok (List.isEmpty_iff.mpr herrors)

end FallsBack

end Resource

namespace Compile

variable {ds : Declarations} {d : ResourceDecl} {p : Parts} {r : Resource}

/-! ## Contracts of a nested extension -/

/-- A nested extension has a contract of its own fields. -/
theorem contractsOf_child {q : ResourceDecl} {pk : FieldDecl} {pkFromSession : Bool}
    {lists : Lists} {fields : List Field} {linked : List Linked}
    {nested : List (String × Contract)} {cs : Contracts}
    (h : contractsOf d (some q) pk pkFromSession lists fields linked nested = .ok cs) :
    ∃ own, childContract d q = .ok own ∧ cs.child = some own.partial := by
  unfold contractsOf at h
  simp only [bind_eq_ok] at h
  obtain ⟨post, _, get, _, list, _, delete, _, update, _, child, hchild, he⟩ := h
  obtain ⟨own, hown, rfl⟩ := map_eq_ok.mp hchild
  rw [← Except.ok.inj he]
  exact ⟨own, hown, rfl⟩

theorem childContract_names {kid parent : ResourceDecl} {c : Contract}
    (h : childContract kid parent = .ok c) (k : String) :
    k ∈ c.names ↔ ∃ e ∈ ownFields kid parent, e.name = k := by
  refine ⟨childContract_ok h k, ?_⟩
  rintro ⟨e, he, rfl⟩
  obtain ⟨specs, hspecs, rfl⟩ := map_eq_ok.mp h
  obtain ⟨s, hs, hread⟩ := partner_of_mem (mapM_eq_ok.mp hspecs).flip he
  exact List.mem_map.mpr ⟨s, hs, fieldOf_name hread⟩

/-- A contract that reads knows of the own fields of an extension what they say. -/
theorem readContract_own {list : Bool} {linked : List Linked}
    {nested : List (String × Contract)} {owner : ResourceDecl} {names : List String}
    {c own : Contract} (h : readContract list linked nested (fieldsOf ds d owner) names = .ok c)
    (hown : childContract d owner = .ok own) {e : FieldSpec × Shape} (he : e ∈ c.fields)
    (hname : e.1.name ∈ own.names) : e ∈ own.fields := by
  obtain ⟨k, hk, hkname⟩ := childContract_ok hown _ hname
  obtain ⟨specs, hspecs, rfl⟩ := map_eq_ok.mp h
  obtain ⟨f, hf, hread⟩ := partner_of_mem (mapM_eq_ok.mp hspecs) he
  obtain ⟨s, hs, rfl⟩ := map_eq_ok.mp hread
  obtain ⟨n, _, hfind⟩ := List.mem_filterMap.mp hf
  have hfname : f.decl.name = s.1.name := (fieldOf_name hs).symm
  have hfields := List.mem_of_find?_eq_some hfind
  unfold fieldsOf at hfields
  rcases List.mem_append.mp hfields with howner | hkid
  · obtain ⟨e', he', rfl⟩ := List.mem_map.mp howner
    exact absurd (hfname.trans hkname.symm) ((mem_ownFields.mp hk).2 e' he')
  · cases hext : d.info.extendsOn with
    | none =>
      rw [hext] at hkid
      exact absurd hkid List.not_mem_nil
    | some ext =>
      rw [hext] at hkid
      obtain ⟨e', he', rfl⟩ := List.mem_map.mp hkid
      obtain ⟨specs', hspecs', rfl⟩ := map_eq_ok.mp hown
      obtain ⟨s', hs', hread'⟩ := partner_of_mem (mapM_eq_ok.mp hspecs').flip he'
      have hsame : s = s' := Except.ok.inj (hs.symm.trans hread')
      rw [hsame]
      exact hs'

theorem filter_partial (hr : resource ds d = .ok r) {c : Contract}
    (hc : c ∈ [r.contracts.get, r.contracts.list, r.contracts.delete]) : c.complete = false := by
  obtain ⟨p, templates, hp, _, rfl⟩ := resource_ok_iff.mp hr
  exact (filter_contract hp hc).1

/-- The own fields of a nested extension are checked again by all that is known of them. -/
theorem fallsBack (hr : resource ds d = .ok r) {c : Contract}
    (hc : c ∈ [r.contracts.get, r.contracts.list, r.contracts.delete]) {own : Contract}
    (hown : childContract d (ds.owner d) = .ok own) (hkid : r.isKid = true) :
    r.FallsBack c own.partial := by
  have hpart := filter_partial hr hc
  obtain ⟨p, templates, hp, _, rfl⟩ := resource_ok_iff.mp hr
  obtain ⟨ext, hext⟩ := Option.isSome_iff_exists.mp hkid
  have hparent := (parent_eq hp hext).1
  have hcontracts := hp.contracts
  rw [hparent] at hcontracts
  obtain ⟨own', hown', hchild⟩ := contractsOf_child hcontracts
  obtain rfl : own' = own := Except.ok.inj (hown'.symm.trans hown)
  refine ⟨hchild, hpart, rfl, fun k => ?_, fun e he hname => ?_⟩
  · exact (isChildField_iff hr).trans (childContract_names hown k).symm
  · obtain ⟨hget, hlist, hdelete, _⟩ := contractsOf_ok hcontracts
    unfold Parts.fields at hget hlist hdelete
    rw [hp.owner_eq] at hget hlist hdelete
    simp only [List.mem_cons, List.not_mem_nil, or_false] at hc
    rcases hc with rfl | rfl | rfl
    · exact readContract_own hget hown he hname
    · exact readContract_own hlist hown he hname
    · exact readContract_own hdelete hown he hname

theorem exists_own (hr : resource ds d = .ok r) (hkid : r.isKid = true) :
    ∃ own, childContract d (ds.owner d) = .ok own := by
  obtain ⟨p, templates, hp, _, rfl⟩ := resource_ok_iff.mp hr
  obtain ⟨ext, hext⟩ := Option.isSome_iff_exists.mp hkid
  have hcontracts := hp.contracts
  rw [(parent_eq hp hext).1] at hcontracts
  obtain ⟨own, hown, _⟩ := contractsOf_child hcontracts
  exact ⟨own, hown⟩

/-- Other resources have no contract of own fields. -/
theorem child_none (hr : resource ds d = .ok r) (hkid : r.isKid = false) :
    r.contracts.child = none := by
  obtain ⟨p, templates, hp, _, rfl⟩ := resource_ok_iff.mp hr
  have hparent := hp.parent_none (ResourceDecl.extends_none hkid)
  obtain ⟨_, _, _, hsome⟩ := contractsOf_ok hp.contracts
  show p.contracts.child = none
  cases hchild : p.contracts.child with
  | none => rfl
  | some child =>
    obtain ⟨q, _, hq, _⟩ := hsome child hchild
    rw [hparent] at hq
    exact absurd hq (by simp)

/-- The filters of a nested extension are checked as by the one contract that has the own
    fields beside those of the contract given; those of other resources by the contract
    alone. -/
theorem checkFilter_merged (hr : resource ds d = .ok r) {c : Contract}
    (hc : c ∈ [r.contracts.get, r.contracts.list, r.contracts.delete]) (input : Object) :
    (r.isKid = true → ∃ own, (ownFields d (ds.owner d)).mapM Contract.fieldOf = .ok own ∧
      SameOutcome (r.checkFilter c input) ((c.merged ⟨false, own⟩).validate input)) ∧
    (r.isKid = false → r.checkFilter c input = c.validate input) := by
  constructor
  · intro hkid
    obtain ⟨own, hown⟩ := exists_own hr hkid
    have hboth := (fallsBack hr hc hown hkid).sameOutcome_merged input
    obtain ⟨specs, hspecs, rfl⟩ := map_eq_ok.mp hown
    exact ⟨specs, hspecs, hboth⟩
  · intro hkid
    exact Resource.checkFilter_of_plain (child_none hr hkid) c input

/-- The compiled operators have what the written ones have. -/
theorem exists_operators (P : Resource → Bool)
    (h : (writtenResources Declarations.staff).toOption.any (·.any fun r =>
      r.name = "Operator" && P r) = true) :
    ∃ g, Declarations.staff.resolve = .ok g ∧ ∃ r ∈ g.resources,
      resource Declarations.staff Declarations.operators = .ok r ∧ P r = true := by
  obtain ⟨g, hg, r, hr, hP⟩ := exists_resolved Declarations.staff _ (by decide +kernel) h
  obtain ⟨hname, hP⟩ := Bool.and_eq_true_iff.mp hP
  obtain ⟨d, hd, hcompiled⟩ := mem_resolved hg hr
  have hdname : d.name = "Operator" :=
    (resource_name hcompiled).symm.trans (of_decide_eq_true hname)
  simp only [Declarations.staff, List.mem_cons, List.not_mem_nil, or_false] at hd
  rcases hd with rfl | rfl
  · exact absurd hdname (by decide)
  · exact ⟨g, hg, r, hr, hcompiled, hP⟩

/-- An operator that is asked for by key and city. -/
def operatorInParis : Object := [("city", .str "Paris"), ("id", .ofInt 3)]

theorem checkFilter_merged_staff :
    ∃ r own, resource Declarations.staff Declarations.operators = .ok r ∧ r.isKid = true ∧
      (ownFields Declarations.operators Declarations.actors).mapM Contract.fieldOf = .ok own ∧
      "city" ∉ r.contracts.get.names ∧
      r.checkFilter r.contracts.get operatorInParis = .ok operatorInParis ∧
      (r.contracts.get.merged ⟨false, own⟩).validate operatorInParis = .ok operatorInParis := by
  obtain ⟨g, _, r, _, hr, hP⟩ := exists_operators (fun r => r.isKid = true ∧
    "city" ∉ r.contracts.get.names ∧
    (r.checkFilter r.contracts.get operatorInParis).toOption = some operatorInParis)
    (by decide +kernel)
  obtain ⟨hkid, hcity, hfilter⟩ := of_decide_eq_true hP
  have hok := toOption_eq_some.mp hfilter
  obtain ⟨own, hown, hsame⟩ :=
    (checkFilter_merged hr List.mem_cons_self operatorInParis).1 hkid
  refine ⟨r, own, hr, hkid, hown, hcity, hok, ?_⟩
  rw [hok] at hsame
  generalize hmerged : (r.contracts.get.merged ⟨false, own⟩).validate operatorInParis = outcome
    at hsame
  cases hsame with
  | accepted => rfl

end Compile

end RowServe
