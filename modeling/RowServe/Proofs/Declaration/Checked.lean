import Mathlib.Data.List.Nodup
import Mathlib.Data.List.Pairwise
import RowServe.Declaration.Check
import RowServe.Proofs.Results

/-!
# Checked declarations

Names of resources, routes and extended columns are claimed while the declarations are
checked, and nothing is claimed twice.

Results:

* `check_names`: checked resources have different names.
* `check_routes`: checked resources with views have different routes.
* `check_extensions`: checked resources extend different columns.
-/

namespace RowServe.Declarations

variable {ds : Declarations} {d : ResourceDecl} {claimed after : Claimed}

theorem ensure_ok {holds : Bool} {e : ConfigError} (h : ensure holds e = .ok ()) :
    holds = true := by
  unfold ensure at h
  split_ifs at h with hholds
  exact hholds

/-- The column that a resource extends, with the name of its parent. -/
def extended (d : ResourceDecl) : List (String × String) :=
  (d.info.extendsOn.map fun ext => (ext.parent, ext.column)).toList

/-- The route under which a resource is served, if it has views. -/
def served (d : ResourceDecl) : List String := if d.info.createViews then [d.route] else []

/-! ## One resource -/

/-- A checked resource claims the route it is served under, which was free. -/
theorem checkRoute_routes (h : checkRoute d claimed = .ok after) :
    after.routes = claimed.routes ++ served d ∧ ∀ route ∈ served d, route ∉ claimed.routes := by
  unfold checkRoute at h
  unfold served
  split_ifs at h ⊢
  · obtain ⟨_, _, h⟩ := bind_eq_ok.mp h
    obtain ⟨_, hfree, h⟩ := bind_eq_ok.mp h
    rw [← Except.ok.inj h]
    exact ⟨rfl, by simpa using ensure_ok hfree⟩
  · rw [← Except.ok.inj h]
    simp

theorem checkRoute_claims (h : checkRoute d claimed = .ok after) :
    after.names = claimed.names ∧ after.columns = claimed.columns := by
  unfold checkRoute at h
  split_ifs at h
  · obtain ⟨_, _, h⟩ := bind_eq_ok.mp h
    obtain ⟨_, _, h⟩ := bind_eq_ok.mp h
    rw [← Except.ok.inj h]
    exact ⟨rfl, rfl⟩
  · rw [← Except.ok.inj h]
    exact ⟨rfl, rfl⟩

/-- What a resource extends when it is checked: nothing, or a binary JSON column of a resource
    with a table of its own, which was free. -/
theorem checkExtension_ok {parent : Option ResourceDecl}
    (h : checkExtension ds d claimed = .ok (parent, after)) :
    (d.info.extendsOn = none ∧ parent = none ∧ after = claimed) ∨
      ∃ ext q e, d.info.extendsOn = some ext ∧ ds.byName? ext.parent = some q ∧
        q.isKid = false ∧ q.field? ext.column = some e ∧ e.sql.any SqlType.isJsonb = true ∧
        (ext.parent, ext.column) ∉ claimed.columns ∧ parent = some q ∧
        after = { claimed with columns := claimed.columns ++ [(ext.parent, ext.column)] } := by
  unfold checkExtension at h
  cases hext : d.info.extendsOn with
  | none =>
    rw [hext] at h
    obtain ⟨rfl, rfl⟩ := Prod.mk.inj (Except.ok.inj h)
    exact .inl ⟨rfl, rfl, rfl⟩
  | some ext =>
    rw [hext] at h
    dsimp only at h
    split at h
    · contradiction
    · rename_i q hq
      obtain ⟨hq, hplain⟩ := Option.filter_eq_some_iff.mp hq
      have hqname : q.name = ext.parent := by simpa using List.find?_some hq
      split at h
      · contradiction
      · rename_i e he
        obtain ⟨he, hjsonb⟩ := Option.filter_eq_some_iff.mp he
        rw [hqname, ResourceDecl.field?_name he] at h
        split_ifs at h with hclaimed
        obtain ⟨rfl, rfl⟩ := Prod.mk.inj (Except.ok.inj h)
        exact .inr ⟨ext, q, e, rfl, hq, by simpa using hplain, he, hjsonb, by simpa using hclaimed,
          rfl, rfl⟩

/-- What a checked resource has passed. -/
theorem checkResource_ok (h : checkResource ds claimed d = .ok after) :
    ∃ routed parent, d.name ∉ claimed.names ∧
      checkRoute d { claimed with names := claimed.names ++ [d.name] } = .ok routed ∧
      checkExtension ds d routed = .ok (parent, after) ∧ checkLists d parent.toList = .ok () ∧
      ∀ e ∈ d.fields, checkField ds d e = .ok () := by
  unfold checkResource at h
  obtain ⟨_, hfresh, h⟩ := bind_eq_ok.mp h
  obtain ⟨routed, hroute, h⟩ := bind_eq_ok.mp h
  obtain ⟨⟨parent, inside⟩, hextension, h⟩ := bind_eq_ok.mp h
  obtain ⟨_, hlists, h⟩ := bind_eq_ok.mp h
  obtain ⟨_, hfields, h⟩ := bind_eq_ok.mp h
  obtain rfl := Except.ok.inj h
  exact ⟨routed, parent, by simpa using ensure_ok hfresh, hroute, hextension, hlists,
    (forEach_ok_iff _ _).mp hfields⟩

theorem checkExtension_claims {parent : Option ResourceDecl}
    (h : checkExtension ds d claimed = .ok (parent, after)) :
    after.names = claimed.names ∧ after.routes = claimed.routes ∧
      after.columns = claimed.columns ++ extended d ∧
        ∀ place ∈ extended d, place ∉ claimed.columns := by
  unfold extended
  rcases checkExtension_ok h with ⟨hext, _, rfl⟩ | ⟨ext, q, e, hext, _, _, _, _, hfree, _, rfl⟩
  · simp [hext]
  · simpa [hext] using hfree

/-- A checked resource claims its name, its route and its column, which were free. -/
theorem checkResource_claims (h : checkResource ds claimed d = .ok after) :
    (after.names = claimed.names ++ [d.name] ∧ d.name ∉ claimed.names) ∧
      (after.routes = claimed.routes ++ served d ∧
        ∀ route ∈ served d, route ∉ claimed.routes) ∧
      after.columns = claimed.columns ++ extended d ∧
        ∀ place ∈ extended d, place ∉ claimed.columns := by
  obtain ⟨routed, parent, hfresh, hroute, hextension, _⟩ := checkResource_ok h
  obtain ⟨hnames, hcolumns⟩ := checkRoute_claims hroute
  obtain ⟨hroutes, hroutefree⟩ := checkRoute_routes hroute
  obtain ⟨hnames', hroutes', hcolumns', hfree⟩ := checkExtension_claims hextension
  rw [hnames', hnames, hroutes', hroutes, hcolumns', hcolumns]
  rw [hcolumns] at hfree
  exact ⟨⟨rfl, hfresh⟩, ⟨rfl, hroutefree⟩, rfl, hfree⟩

/-! ## All resources -/

/-- What each resource adds to the claims while it is free is claimed once. -/
theorem checkFrom_nodup {α : Type} {claims : Claimed → List α} {own : ResourceDecl → List α}
    (hstep : ∀ claimed d after, checkResource ds claimed d = .ok after →
      (own d).Nodup ∧ claims after = claims claimed ++ own d ∧ ∀ a ∈ own d, a ∉ claims claimed)
    {rest : Declarations} {claimed : Claimed} (hclaimed : (claims claimed).Nodup)
    (h : checkFrom ds claimed rest = .ok ()) : (claims claimed ++ rest.flatMap own).Nodup := by
  induction rest generalizing claimed with
  | nil => simpa using hclaimed
  | cons d rest ih =>
    obtain ⟨after, hd, h⟩ := bind_eq_ok.mp h
    obtain ⟨hown, hafter, hfree⟩ := hstep claimed d after hd
    have hnodup : (claims after).Nodup := by
      rw [hafter]
      refine List.nodup_append.mpr ⟨hclaimed, hown, ?_⟩
      rintro a ha b hb rfl
      exact hfree a hb ha
    simpa [hafter] using ih hnodup h

/-- Checked resources have different names. -/
theorem check_names (h : ds.check = .ok ()) : (ds.map (·.name)).Nodup := by
  have hstep : ∀ claimed d after, checkResource ds claimed d = .ok after →
      [d.name].Nodup ∧ after.names = claimed.names ++ [d.name] ∧
        ∀ a ∈ [d.name], a ∉ claimed.names := by
    intro claimed d after h
    obtain ⟨⟨hafter, hfree⟩, _⟩ := checkResource_claims h
    exact ⟨List.nodup_singleton _, hafter, by simpa using hfree⟩
  rw [List.map_eq_flatMap]
  exact checkFrom_nodup hstep List.nodup_nil h

/-- No route is claimed twice. -/
theorem check_served (h : ds.check = .ok ()) : (ds.flatMap served).Nodup := by
  refine checkFrom_nodup (fun claimed d after h => ⟨?_, (checkResource_claims h).2.1⟩)
    List.nodup_nil h
  unfold served
  split_ifs <;> simp

/-- No column is extended twice. -/
theorem check_extended (h : ds.check = .ok ()) : (ds.flatMap extended).Nodup := by
  refine checkFrom_nodup (fun claimed d after h => ⟨?_, (checkResource_claims h).2.2⟩)
    List.nodup_nil h
  unfold extended
  cases d.info.extendsOn <;> simp

/-- Resources of which no two claim the same are the same if they do. -/
theorem eq_of_claimed {α : Type} {own : ResourceDecl → List α} (h : (ds.flatMap own).Nodup)
    (hd : d ∈ ds) {e : ResourceDecl} (he : e ∈ ds) {a : α} (had : a ∈ own d) (hae : a ∈ own e) :
    d = e := by
  obtain ⟨_, hapart⟩ := List.nodup_flatMap.mp h
  by_contra hne
  have hsymm : Std.Symm (Function.onFun List.Disjoint own) := ⟨fun _ _ h _ ha hb => h hb ha⟩
  have hdisjoint : (own d).Disjoint (own e) := hapart.forall hd he hne
  exact hdisjoint had hae

/-- Checked resources with views have different routes. -/
theorem check_routes (h : ds.check = .ok ()) (hd : d ∈ ds) {e : ResourceDecl} (he : e ∈ ds)
    (hdviews : d.info.createViews = true) (heviews : e.info.createViews = true)
    (hroute : d.route = e.route) : d = e := by
  have hserved : d.route ∈ served d := by simp [served, hdviews]
  exact eq_of_claimed (check_served h) hd he hserved (by simp [served, heviews, hroute])

/-- Checked resources extend different columns. -/
theorem check_extensions (h : ds.check = .ok ()) (hd : d ∈ ds) {e : ResourceDecl} (he : e ∈ ds)
    {ext : Extension} (hdext : d.info.extendsOn = some ext)
    (heext : e.info.extendsOn = some ext) : d = e := by
  have hplace : (ext.parent, ext.column) ∈ extended d := by simp [extended, hdext]
  exact eq_of_claimed (check_extended h) hd he hplace (by simp [extended, heext])

end RowServe.Declarations
