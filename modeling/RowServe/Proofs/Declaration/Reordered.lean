import Mathlib.Data.List.Find
import Mathlib.Data.List.Perm.Basic
import RowServe.Proofs.Declaration.Tables

/-!
# Declarations in another order

A declaration is checked against others in two ways: it looks some of them up, and it claims
what none before it has claimed. A search with at most one answer finds it in any order, and
claims that are all different are free in any order. So the checks that go from declaration
to declaration accept a set of them rather than a list.

Results:

* `check_ok_iff`: declarations are accepted exactly if each passes by itself and nothing is
  claimed twice.
* `reordered_finds`: what is looked up does not depend on the order.
* `check_reordered`: accepted declarations are accepted in any order.
* `ofDecls_reordered`: their tables are the same.
-/

namespace RowServe

namespace Declarations

variable {ds ds' : Declarations} {d : ResourceDecl} {claimed other after : Claimed}

/-! ## One resource by itself -/

/-- The claims with those of one more resource. -/
def Claimed.adding (claimed : Claimed) (d : ResourceDecl) : Claimed :=
  ⟨claimed.names ++ [d.name], claimed.routes ++ served d, claimed.columns ++ extended d⟩

/-- What a resource claims is not claimed. -/
structure Claimed.Free (claimed : Claimed) (d : ResourceDecl) : Prop where
  name : d.name ∉ claimed.names
  routes : ∀ route ∈ served d, route ∉ claimed.routes
  columns : ∀ place ∈ extended d, place ∉ claimed.columns

theorem free_nothing (d : ResourceDecl) : Claimed.nothing.Free d :=
  ⟨List.not_mem_nil, fun _ _ => List.not_mem_nil, fun _ _ => List.not_mem_nil⟩

theorem ensure_pass {holds : Bool} {e : ConfigError} (h : holds = true) :
    ensure holds e = .ok () := if_pos h

theorem checkRoute_moved (h : checkRoute d claimed = .ok after)
    (hfree : ∀ route ∈ served d, route ∉ other.routes) :
    checkRoute d other = .ok { other with routes := other.routes ++ served d } := by
  unfold checkRoute at h ⊢
  unfold served at hfree ⊢
  split_ifs at h hfree ⊢ with hviews
  · obtain ⟨_, husable, _⟩ := bind_eq_ok.mp h
    have hroute : (!other.routes.contains d.route) = true := by
      simpa using hfree d.route (List.mem_singleton_self _)
    exact bind_eq_ok.mpr ⟨_, husable, bind_eq_ok.mpr ⟨_, ensure_pass hroute, rfl⟩⟩
  · rw [List.append_nil]
    rfl

theorem checkExtension_moved {parent : Option ResourceDecl}
    (h : checkExtension ds d claimed = .ok (parent, after))
    (hfree : ∀ place ∈ extended d, place ∉ other.columns) :
    checkExtension ds d other =
      .ok (parent, { other with columns := other.columns ++ extended d }) := by
  unfold checkExtension
  rcases checkExtension_ok h with
    ⟨hext, rfl, _⟩ | ⟨ext, q, e, hext, hq, hplain, he, hjsonb, _, rfl, _⟩
  · unfold extended
    rw [hext]
    simp
  · have hqname : q.name = ext.parent := by simpa using List.find?_some hq
    have hplace : extended d = [(ext.parent, ext.column)] := by simp [extended, hext]
    have hcolumn : (ext.parent, ext.column) ∉ other.columns :=
      hfree _ (hplace ▸ List.mem_singleton_self _)
    rw [hext]
    dsimp only
    rw [hq, Option.filter_some, if_pos (by simpa using hplain)]
    dsimp only
    rw [he, Option.filter_some, if_pos hjsonb]
    dsimp only
    rw [hqname, ResourceDecl.field?_name he, if_neg (by simpa using hcolumn), hplace]

/-- A resource that has passed passes after any claims that leave it free. -/
theorem checkResource_moved (h : checkResource ds claimed d = .ok after) (hfree : other.Free d) :
    checkResource ds other d = .ok (other.adding d) := by
  obtain ⟨routed, parent, _, hroute, hextension, hlists, hfields⟩ := checkResource_ok h
  have hname : (!other.names.contains d.name) = true := by simpa using hfree.name
  unfold checkResource
  refine bind_eq_ok.mpr ⟨_, ensure_pass hname, ?_⟩
  refine bind_eq_ok.mpr ⟨_, checkRoute_moved hroute hfree.routes, ?_⟩
  refine bind_eq_ok.mpr ⟨_, checkExtension_moved hextension hfree.columns, ?_⟩
  refine bind_eq_ok.mpr ⟨_, hlists, ?_⟩
  exact bind_eq_ok.mpr ⟨_, (forEach_ok_iff _ _).mpr hfields, rfl⟩

/-! ## All resources -/

/-- Nothing that the remaining resources claim is claimed twice. -/
structure Apart (claimed : Claimed) (rest : Declarations) : Prop where
  names : (claimed.names ++ rest.map (·.name)).Nodup
  routes : (claimed.routes ++ rest.flatMap served).Nodup
  columns : (claimed.columns ++ rest.flatMap extended).Nodup

theorem Apart.free {rest : Declarations} (h : Apart claimed (d :: rest)) : claimed.Free d := by
  obtain ⟨hnames, hroutes, hcolumns⟩ := h
  rw [List.map_cons] at hnames
  rw [List.flatMap_cons] at hroutes hcolumns
  exact ⟨fun hname => (List.nodup_append.mp hnames).2.2 _ hname _ List.mem_cons_self rfl,
    fun route hd hroute =>
      (List.nodup_append.mp hroutes).2.2 _ hroute _ (List.mem_append_left _ hd) rfl,
    fun place hd hplace =>
      (List.nodup_append.mp hcolumns).2.2 _ hplace _ (List.mem_append_left _ hd) rfl⟩

theorem Apart.step {rest : Declarations} (h : Apart claimed (d :: rest)) :
    Apart (claimed.adding d) rest where
  names := by simpa [Claimed.adding] using h.names
  routes := by simpa [Claimed.adding] using h.routes
  columns := by simpa [Claimed.adding] using h.columns

theorem Apart.perm {rest rest' : Declarations} (h : Apart claimed rest)
    (hperm : rest.Perm rest') : Apart claimed rest' where
  names := ((hperm.map _).append_left _).nodup h.names
  routes := ((hperm.flatMap_right _).append_left _).nodup h.routes
  columns := ((hperm.flatMap_right _).append_left _).nodup h.columns

theorem checkFrom_of_each {rest : Declarations}
    (hpass : ∀ d ∈ rest, ∃ after, checkResource ds .nothing d = .ok after)
    (hapart : Apart claimed rest) : checkFrom ds claimed rest = .ok () := by
  induction rest generalizing claimed with
  | nil => rfl
  | cons d rest ih =>
    obtain ⟨⟨after, hd⟩, hrest⟩ := List.forall_mem_cons.mp hpass
    exact bind_eq_ok.mpr ⟨_, checkResource_moved hd hapart.free, ih hrest hapart.step⟩

/-- Declarations are accepted exactly if each passes by itself and nothing is claimed twice. -/
theorem check_ok_iff : ds.check = .ok () ↔
    (∀ d ∈ ds, ∃ after, checkResource ds .nothing d = .ok after) ∧ Apart .nothing ds := by
  constructor
  · intro h
    refine ⟨fun d hd => ?_, check_names h, check_served h, check_extended h⟩
    obtain ⟨before, after, hresource⟩ := checkFrom_each h hd
    exact ⟨_, checkResource_moved hresource (free_nothing d)⟩
  · rintro ⟨hpass, hapart⟩
    exact checkFrom_of_each hpass hapart

/-! ## What is looked up -/

/-- The same resources are found by name, by table and by the column they extend. -/
structure SameFinds (ds ds' : Declarations) : Prop where
  byName? (name : String) : ds'.byName? name = ds.byName? name
  byTable? (table : String) : ds'.byTable? table = ds.byTable? table
  extending (ext : Extension) :
    ds'.find? (fun r => r.info.extendsOn = some ext) =
      ds.find? fun r => r.info.extendsOn = some ext

/-- The tables of the resources that have one of their own. -/
def tableNames (ds : Declarations) : List String := (ds.filter (!·.isKid)).map (·.tableName)

/-- Resources that have a table of their own each are the same if the tables are. -/
theorem eq_of_tableName (h : ds.tableNames.Nodup) (hd : d ∈ ds) {e : ResourceDecl} (he : e ∈ ds)
    (hdplain : d.isKid = false) (heplain : e.isKid = false)
    (htable : d.tableName = e.tableName) : d = e :=
  List.inj_on_of_nodup_map h (List.mem_filter.mpr ⟨hd, by simpa using hdplain⟩)
    (List.mem_filter.mpr ⟨he, by simpa using heplain⟩) htable

/-- What is looked up does not depend on the order. -/
theorem reordered_finds (h : ds.check = .ok ()) (htables : ds.tableNames.Nodup)
    (hperm : ds'.Perm ds) : SameFinds ds ds' where
  byName? name := by
    refine (List.find?_eq_find?_of_perm hperm.symm ?_).symm
    rintro d ⟨hd, hdname⟩ e ⟨he, hename⟩
    simp only [decide_eq_true_eq] at hdname hename
    exact List.inj_on_of_nodup_map (check_names h) hd he (hdname.trans hename.symm)
  byTable? table := by
    refine (List.find?_eq_find?_of_perm hperm.symm ?_).symm
    rintro d ⟨hd, hdowns⟩ e ⟨he, heowns⟩
    simp only [Bool.and_eq_true, Bool.not_eq_true', decide_eq_true_eq] at hdowns heowns
    exact eq_of_tableName htables hd he hdowns.1 heowns.1 (hdowns.2.trans heowns.2.symm)
  extending ext := by
    refine (List.find?_eq_find?_of_perm hperm.symm ?_).symm
    rintro d ⟨hd, hdext⟩ e ⟨he, heext⟩
    simp only [decide_eq_true_eq] at hdext heext
    exact check_extensions h hd he hdext heext

/-- A resource is checked against what it looks up. -/
theorem checkResource_same (h : SameFinds ds ds') (claimed : Claimed) (d : ResourceDecl) :
    checkResource ds' claimed d = checkResource ds claimed d := by
  have hextension (claimed : Claimed) :
      checkExtension ds' d claimed = checkExtension ds d claimed := by
    simp only [checkExtension, h.byName?]
  have hfields : checkField ds' d = checkField ds d := by
    funext e
    simp only [checkField, h.byTable?]
  simp only [checkResource, hextension, hfields]

/-- Accepted declarations are accepted in any order. -/
theorem check_reordered (h : ds.check = .ok ()) (hsame : SameFinds ds ds')
    (hperm : ds'.Perm ds) : ds'.check = .ok () := by
  obtain ⟨hpass, hapart⟩ := check_ok_iff.mp h
  refine check_ok_iff.mpr ⟨fun d hd => ?_, hapart.perm hperm.symm⟩
  rw [checkResource_same hsame]
  exact hpass d (hperm.mem_iff.mp hd)

end Declarations

namespace TableDef

variable {ds ds' : Declarations} {ts : List TableDef}

theorem ofDecls_eq (ds : Declarations) :
    ofDecls ds = (ds.mapM ofDecl).map (·.flatMap Option.toList) := by
  induction ds with
  | nil => rfl
  | cons d ds ih =>
    rw [ofDecls, List.mapM_cons, ih]
    cases ofDecl d with
    | error e => rfl
    | ok table => cases ds.mapM ofDecl <;> rfl

/-- The tables do not depend on the order, only their own order does. -/
theorem ofDecls_reordered (h : ofDecls ds = .ok ts) (hperm : ds'.Perm ds) :
    ∃ ts', ofDecls ds' = .ok ts' ∧ ts'.Perm ts := by
  rw [ofDecls_eq] at h
  obtain ⟨tables, hmade, rfl⟩ := map_eq_ok.mp h
  obtain ⟨tables', hmade', htables⟩ := List.perm_comp_forall₂ hperm (mapM_eq_ok.mp hmade)
  refine ⟨_, ?_, htables.flatMap_right _⟩
  rw [ofDecls_eq]
  exact map_eq_ok.mpr ⟨_, mapM_eq_ok.mpr hmade', rfl⟩

end TableDef

end RowServe
