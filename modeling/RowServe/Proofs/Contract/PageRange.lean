import Mathlib.Algebra.Group.Nat.Defs
import RowServe.Proofs.Contract.Pages
import RowServe.Proofs.Results

/-!
# The range of a page

Page and limit are read as integers of 64 bits with a sign, and the rows before a page are
counted in words of 64 bits without one. A page beyond the greatest offset is refused, so no
product wraps and no offset is cut down. Whatever becomes of the four keys, the rest of the
query is handed on as it stands.

Results:

* `wordOffset?_eq`: the offset that words compute is that of the unbounded integers.
* `rest_eq_filter`: what is left of a query.
* `validate_ok_iff_requests`: when a page is given, in terms of what is sent.
* `page_in_range`: the range of a page that is given, and the rest of its query.
-/

namespace RowServe

namespace PageSpec

/-! ## Offsets in words -/

/-- The rows before a page, counted in words: `none` if there is no such page, if the product
    does not fit a word, or if it is beyond the greatest offset. -/
def wordOffset? (page limit : UInt64) : Option UInt64 :=
  if page = 0 then none
  else if 2 ^ 64 ≤ (page - 1).toNat * limit.toNat then none
  else if maxOffset < ((page - 1) * limit).toNat then none
  else some ((page - 1) * limit)

theorem toNat_pred {page : UInt64} (h : page ≠ 0) : (page - 1).toNat = page.toNat - 1 := by
  have hpos : 1 ≤ page.toNat := by
    have hne : page.toNat ≠ 0 := fun hzero => h (UInt64.toNat_inj.mp hzero)
    omega
  have hle : (1 : UInt64) ≤ page := UInt64.le_iff_toNat_le.mpr hpos
  rw [UInt64.toNat_sub_of_le page 1 hle]
  rfl

theorem maxOffset_eq : maxOffset = 2 ^ 63 - 1 := rfl

/-- A product that is beyond a word is beyond the greatest offset, so nothing is lost by checking
    the product of unbounded integers only. -/
theorem wordOffset?_eq (p : PageSpec) {page limit : UInt64} (hpage : page.toNat = p.page)
    (hlimit : limit.toNat = p.limit) :
    (wordOffset? page limit).map UInt64.toNat = p.offset? := by
  unfold wordOffset? offset?
  dsimp only
  by_cases hzero : page = 0
  · have hnone : p.page = 0 := by rw [← hpage, hzero]; rfl
    rw [if_pos hzero, if_pos (.inl hnone)]
    rfl
  · have hpred : (page - 1).toNat = p.page - 1 := by rw [toNat_pred hzero, hpage]
    have hsome : p.page ≠ 0 := by
      intro hnone
      exact hzero (UInt64.toNat_inj.mp (hpage.trans hnone))
    rw [if_neg hzero, hpred, hlimit]
    by_cases hwide : 2 ^ 64 ≤ (p.page - 1) * p.limit
    · have hbeyond : maxOffset < (p.page - 1) * p.limit := by
        rw [maxOffset_eq]
        omega
      rw [if_pos hwide, if_pos (.inr hbeyond)]
      rfl
    · have hproduct : ((page - 1) * limit).toNat = (p.page - 1) * p.limit := by
        rw [UInt64.toNat_mul, hpred, hlimit]
        exact Nat.mod_eq_of_lt (by omega)
      rw [if_neg hwide, hproduct]
      by_cases hbeyond : maxOffset < (p.page - 1) * p.limit
      · rw [if_pos hbeyond, if_pos (.inr hbeyond)]
        rfl
      · rw [if_neg hbeyond, if_neg (by simp [hsome, hbeyond]), Option.map_some, hproduct]

/-- A page in range: its limit is one that is allowed, and the rows before it are counted
    exactly, by words as by unbounded integers. -/
structure InRange (p : PageSpec) : Prop where
  page : 1 ≤ p.page
  limit : 1 ≤ p.limit ∧ p.limit ≤ 1000
  offset : p.offset = (p.page - 1) * p.limit
  fits : p.offset ≤ 2 ^ 63 - 1
  words : ∃ page limit offset : UInt64, page.toNat = p.page ∧ limit.toNat = p.limit ∧
    wordOffset? page limit = some offset ∧ offset.toNat = (p.page - 1) * p.limit

theorem offset?_isSome_iff (p : PageSpec) :
    p.offset?.isSome = true ↔ 1 ≤ p.page ∧ (p.page - 1) * p.limit ≤ 2 ^ 63 - 1 := by
  unfold offset?
  rw [maxOffset_eq]
  dsimp only
  split_ifs with h
  · simp only [Option.isSome_none, Bool.false_eq_true, false_iff]
    omega
  · simp only [Option.isSome_some, true_iff]
    omega

/-- Page and limit of a page that is small enough fit words. -/
theorem inRange_of_offset {p : PageSpec} (hlimit : 1 ≤ p.limit ∧ p.limit ≤ 1000)
    (hpage : 1 ≤ p.page) (h : (p.page - 1) * p.limit ≤ 2 ^ 63 - 1) : p.InRange := by
  have hoffset : p.offset? = some ((p.page - 1) * p.limit) := by
    unfold offset?
    rw [maxOffset_eq]
    exact if_neg (by omega)
  have hexact : p.offset = (p.page - 1) * p.limit := by
    unfold offset
    rw [hoffset]
    rfl
  have hsmall : p.page < 2 ^ 64 := by
    have hfactor : p.page - 1 ≤ (p.page - 1) * p.limit := Nat.le_mul_of_pos_right _ hlimit.1
    omega
  have hpageWord : (UInt64.ofNat p.page).toNat = p.page := by
    rw [UInt64.toNat_ofNat']
    exact Nat.mod_eq_of_lt hsmall
  have hlimitWord : (UInt64.ofNat p.limit).toNat = p.limit := by
    rw [UInt64.toNat_ofNat']
    exact Nat.mod_eq_of_lt (by omega)
  have hwords := wordOffset?_eq p hpageWord hlimitWord
  rw [hoffset] at hwords
  obtain ⟨offset, hword, hvalue⟩ := Option.map_eq_some_iff.mp hwords
  exact
    { page := hpage
      limit := hlimit
      offset := hexact
      fits := by rw [hexact]; exact h
      words := ⟨_, _, offset, hpageWord, hlimitWord, hword, hvalue⟩ }

end PageSpec

namespace Keyed

theorem erase_eq_filter {β : Type} (k : String) (m : Keyed β) :
    m.erase k = m.filter fun e => e.1 ≠ k := by
  induction m with
  | nil => rfl
  | cons e m ih =>
    obtain ⟨l, v⟩ := e
    by_cases h : k = l
    · subst h
      simpa [erase] using ih
    · simpa [erase, h, Ne.symm h] using ih

end Keyed

namespace PaginationContract

variable {c : PaginationContract} {query : Object} {page : PageSpec}

/-! ## What is left of a query -/

/-- The four keys are taken out, and all other entries stay as they are, in their order. -/
theorem rest_eq_filter (query : Object) :
    rest query = query.filter fun e => e.1 ∉ ["page", "limit", "order_by", "order_dir"] := by
  unfold rest keys
  simp only [List.foldl_cons, List.foldl_nil, Keyed.erase_eq_filter, List.filter_filter]
  apply List.filter_congr
  intro e _
  simp only [List.mem_cons, List.not_mem_nil, or_false, not_or, Bool.decide_and]
  ac_rfl

/-! ## What a query asks for -/

/-- A positive number is asked for: the integer that is sent last under a key, or the usual
    number if nothing is sent. -/
inductive Counted (usual : Nat) : Option Json → Nat → Prop where
  | usual : Counted usual none usual
  | sent {raw : Json} {n : Nat} (hpos : 1 ≤ n)
      (hread : (lastValue raw).bind Convert.toInteger = some (n : Int)) :
      Counted usual (some raw) n

/-- Names to order by are asked for: some that are allowed, or the usual ones if nothing is
    sent. -/
inductive Ordered (c : PaginationContract) : Option Json → List String → Prop where
  | usual : Ordered c none c.default
  | sent {raw : Json} (hsome : raw.nameList ≠ [])
      (hallowed : ∀ n ∈ raw.nameList, n ∈ c.allowed) : Ordered c (some raw) raw.nameList

/-- A direction is asked for: the word for it in any case of letters, or the ascending one if
    nothing is sent. -/
inductive Directed : Option Json → OrderDir → Prop where
  | usual : Directed none .asc
  | ascending {raw : Json} {word : String} (hsent : (lastValue raw).bind Json.asText? = some word)
      (hword : Text.toLower word = "asc") : Directed (some raw) .asc
  | descending {raw : Json} {word : String} (hsent : (lastValue raw).bind Json.asText? = some word)
      (hword : Text.toLower word = "desc") : Directed (some raw) .desc

/-- The page is what the four keys of a query ask for. A greater limit than a thousand asks for
    a thousand. -/
structure Requests (c : PaginationContract) (query : Object) (p : PageSpec) : Prop where
  page : Counted 1 (query.find? "page") p.page
  limit : ∃ n, Counted 100 (query.find? "limit") n ∧ p.limit = min n 1000
  orderBy : c.Ordered (query.find? "order_by") p.orderBy
  orderDir : Directed (query.find? "order_dir") p.orderDir

theorem Counted.of_read {usual : Nat} {raw : Json} {i : Int} (hpos : 1 ≤ i)
    (hread : (lastValue raw).bind Convert.toInteger = some i) :
    Counted usual (some raw) i.toNat := by
  refine .sent (by omega) ?_
  rw [hread, Int.toNat_of_nonneg (by omega)]

theorem Counted.pos {usual n : Nat} {sent : Option Json} (h : Counted usual sent n)
    (husual : 1 ≤ usual) : 1 ≤ n := by
  cases h with
  | usual => exact husual
  | sent hpos _ => exact hpos

theorem pageOf_iff {sent : Option Json} {n : Nat} :
    pageOf sent = ([], n) ↔ Counted 1 sent n := by
  constructor
  · intro h
    unfold pageOf at h
    split at h
    · obtain rfl := (Prod.mk.inj h).2
      exact .usual
    · split at h
      · rename_i raw i hread
        split_ifs at h with hpos
        · obtain rfl := (Prod.mk.inj h).2
          exact .of_read hpos hread
        · exact absurd (Prod.mk.inj h).1 (FieldErrors.single_ne_nil _ _)
      · exact absurd (Prod.mk.inj h).1 (FieldErrors.single_ne_nil _ _)
  · intro h
    cases h with
    | usual => rfl
    | sent hpos hread =>
      unfold pageOf
      dsimp only
      rw [hread]
      dsimp only
      rw [if_pos (by omega), Int.toNat_natCast]
      rfl

theorem limitOf_iff {sent : Option Json} {m : Nat} :
    limitOf sent = ([], m) ↔ ∃ n, Counted 100 sent n ∧ m = min n 1000 := by
  constructor
  · intro h
    unfold limitOf at h
    split at h
    · obtain rfl := (Prod.mk.inj h).2
      exact ⟨100, .usual, rfl⟩
    · split at h
      · rename_i raw i hread
        split_ifs at h with hpos
        · obtain rfl := (Prod.mk.inj h).2
          exact ⟨i.toNat, .of_read hpos hread, rfl⟩
        · exact absurd (Prod.mk.inj h).1 (FieldErrors.single_ne_nil _ _)
      · exact absurd (Prod.mk.inj h).1 (FieldErrors.single_ne_nil _ _)
  · rintro ⟨n, h, rfl⟩
    cases h with
    | usual => rfl
    | sent hpos hread =>
      unfold limitOf
      dsimp only
      rw [hread]
      dsimp only
      rw [if_pos (by omega), Int.toNat_natCast]
      rfl

theorem orderByOf_iff {sent : Option Json} {names : List String} :
    c.orderByOf sent = ([], names) ↔ c.Ordered sent names := by
  constructor
  · intro h
    unfold orderByOf at h
    split at h
    · obtain rfl := (Prod.mk.inj h).2
      exact .usual
    · dsimp only at h
      split_ifs at h with hempty hall
      · exact absurd (Prod.mk.inj h).1 (FieldErrors.single_ne_nil _ _)
      · obtain rfl := (Prod.mk.inj h).2
        refine .sent (fun hnil => hempty (List.isEmpty_iff.mpr hnil)) fun n hn => ?_
        exact List.contains_iff_mem.mp (List.all_eq_true.mp hall n hn)
      · exact absurd (Prod.mk.inj h).1 (FieldErrors.single_ne_nil _ _)
  · intro h
    cases h with
    | usual => rfl
    | @sent raw hsome hallowed =>
      have hall : raw.nameList.all c.allowed.contains = true :=
        List.all_eq_true.mpr fun n hn => List.contains_iff_mem.mpr (hallowed n hn)
      unfold orderByOf
      dsimp only
      rw [if_neg (mt List.isEmpty_iff.mp hsome), if_pos hall]
      rfl

theorem orderDirOf_iff {sent : Option Json} {dir : OrderDir} :
    orderDirOf sent = ([], dir) ↔ Directed sent dir := by
  constructor
  · intro h
    unfold orderDirOf at h
    split at h
    · obtain rfl := (Prod.mk.inj h).2
      exact .usual
    · split at h
      · rename_i hword
        obtain ⟨word, hsent, hword⟩ := Option.map_eq_some_iff.mp hword
        obtain rfl := (Prod.mk.inj h).2
        exact .ascending hsent hword
      · rename_i hword
        obtain ⟨word, hsent, hword⟩ := Option.map_eq_some_iff.mp hword
        obtain rfl := (Prod.mk.inj h).2
        exact .descending hsent hword
      · exact absurd (Prod.mk.inj h).1 (FieldErrors.single_ne_nil _ _)
  · intro h
    cases h with
    | usual => rfl
    | ascending hsent hword | descending hsent hword =>
      unfold orderDirOf
      dsimp only
      rw [hsent, Option.map_some, hword]
      rfl

/-- A page is given exactly if it is what the query asks for, and its offset is no more than the
    greatest one. -/
theorem validate_ok_iff_requests :
    (c.validate query).1 = .ok page ↔
      c.Requests query page ∧ (page.page - 1) * page.limit ≤ 2 ^ 63 - 1 := by
  rw [validate_ok_iff, PageSpec.offset?_isSome_iff]
  constructor
  · rintro ⟨rfl, ⟨_, hoffset⟩, hpage, hlimit, horderBy, horderDir⟩
    refine ⟨⟨?_, ?_, ?_, ?_⟩, hoffset⟩
    · exact pageOf_iff.mp (Prod.ext hpage rfl)
    · exact limitOf_iff.mp (Prod.ext hlimit rfl)
    · exact orderByOf_iff.mp (Prod.ext horderBy rfl)
    · exact orderDirOf_iff.mp (Prod.ext horderDir rfl)
  · rintro ⟨⟨hpage, hlimit, horderBy, horderDir⟩, hoffset⟩
    have hpos : 1 ≤ page.page := hpage.pos (Nat.le_refl 1)
    have hpage := pageOf_iff.mpr hpage
    have hlimit := limitOf_iff.mpr hlimit
    have horderBy := orderByOf_iff.mpr horderBy
    have horderDir := orderDirOf_iff.mpr horderDir
    refine ⟨?_, ⟨hpos, hoffset⟩, ?_, ?_, ?_, ?_⟩
    · unfold asked
      rw [hpage, hlimit, horderBy, horderDir]
    · rw [hpage]
    · rw [hlimit]
    · rw [horderBy]
    · rw [horderDir]

/-- Whether or not a page is given, exactly the four keys are taken out of the query. A page is
    given exactly if it is what the query asks for and small enough; then it is in range, its
    rows are counted exactly, and it is ordered by the usual names or by some that are allowed. -/
theorem page_in_range (c : PaginationContract) (query : Object) :
    (c.validate query).2 =
        query.filter (fun e => e.1 ∉ ["page", "limit", "order_by", "order_dir"]) ∧
      (∀ p : PageSpec, (c.validate query).1 = .ok p ↔
        c.Requests query p ∧ (p.page - 1) * p.limit ≤ 2 ^ 63 - 1) ∧
      ∀ p : PageSpec, (c.validate query).1 = .ok p →
        p.InRange ∧ (p.orderBy = c.default ∨ (p.orderBy ≠ [] ∧ ∀ n ∈ p.orderBy, n ∈ c.allowed)) := by
  refine ⟨rest_eq_filter query, fun p => validate_ok_iff_requests, ?_⟩
  intro p h
  obtain ⟨hasked, hoffset⟩ := validate_ok_iff_requests.mp h
  obtain ⟨n, hlimit, hclamped⟩ := hasked.limit
  have hpos : 1 ≤ n := hlimit.pos (by omega)
  have hrange : 1 ≤ p.limit ∧ p.limit ≤ 1000 := by
    rw [hclamped]
    omega
  have hpage : 1 ≤ p.page := hasked.page.pos (Nat.le_refl 1)
  obtain ⟨rfl, _, _, _, hnames, _⟩ := (validate_ok_iff c query p).mp h
  exact ⟨PageSpec.inRange_of_offset hrange hpage hoffset, c.orderByOf_accepted hnames⟩

/-- The last page of the greatest limit: a thousand rows more would be beyond the greatest
    offset. The limit that is sent is greater than that. -/
theorem last_page_in_range :
    let c : PaginationContract := ⟨["id", "name"], ["id"]⟩
    let query : Object := [("limit", .str "5000"), ("name", .null), ("order_by", .str "name, id"),
      ("page", .arr [.ofInt 1, .ofInt 9223372036854776])]
    let page : PageSpec := ⟨9223372036854776, 1000, ["name", "id"], .asc⟩
    (c.validate query).1 = .ok page ∧ (c.validate query).2 = [("name", .null)] ∧
      page.offset = 9223372036854775000 ∧ page.InRange ∧
      ∀ n ∈ page.orderBy, n ∈ c.allowed := by
  intro c query page
  have hok : (c.validate query).1 = .ok page := toOption_eq_some.mp (by decide +kernel)
  obtain ⟨hrest, _, hrange⟩ := page_in_range c query
  obtain ⟨hin, horder⟩ := hrange page hok
  have hallowed : ∀ n ∈ page.orderBy, n ∈ c.allowed :=
    (horder.resolve_left (by decide)).2
  refine ⟨hok, ?_, ?_, hin, hallowed⟩
  · rw [hrest]
    decide +kernel
  · rw [hin.offset]
    decide

end PaginationContract

end RowServe
