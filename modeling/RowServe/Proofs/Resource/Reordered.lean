import RowServe.Proofs.Declaration.Plain
import RowServe.Proofs.Declaration.Reordered
import RowServe.Proofs.Resource.Joins
import RowServe.Proofs.Store.Grouping

/-!
# Registries of reordered declarations

Where no two resources have tables of one name, declarations resolve in any order if they do
in one, and to the same resources. What a resource looks up it finds in any order; only its
dependents are collected from all declarations in turn, so they come in the order of these,
and the clean-up statement updates their tables in that order.

Results:

* `parts_same`: what is computed before the templates depends on what is looked up.
* `dependentsOf_perm`: the dependents in another order.
* `resolve_reordered`: the registry of declarations in another order.
-/

namespace RowServe

/-- The second resource is the first one, except for the order of its dependents. The tables
    that its clean-up statement updates are the same, with the same columns in each. -/
structure Resource.Reordered (r r' : Resource) : Prop where
  same : r' = { r with
    dependents := r'.dependents
    templates := { r.templates with cleanup := r'.templates.cleanup } }
  dependents : r'.dependents.Perm r.dependents
  cleanup : r.templates.cleanup = cleanupStatement r.dependents
  cleanup' : r'.templates.cleanup = cleanupStatement r'.dependents
  updates : (DependentTable.ofList r'.dependents).Perm (DependentTable.ofList r.dependents)

/-- The second registry has the resources and the tables of the first one in another order. -/
structure Registry.Reordered (g g' : Registry) : Prop where
  resources : ∃ rs, rs.Perm g.resources ∧ List.Forall₂ Resource.Reordered rs g'.resources
  tables : g'.tables.Perm g.tables

namespace Compile

variable {ds ds' : Declarations} {d : ResourceDecl} {g : Registry} {r : Resource}

/-! ## What depends on what is looked up -/

section SameFinds

variable (h : Declarations.SameFinds ds ds')
include h

theorem kindOf_same (owner : ResourceDecl) (e : FieldDecl) (storage : Storage) :
    kindOf ds' owner e storage = kindOf ds owner e storage := by
  have hkid : kidOf? ds' owner.name e.name = kidOf? ds owner.name e.name := h.extending _
  simp only [kindOf, hkid]

theorem fieldsOf_same (d owner : ResourceDecl) : fieldsOf ds' d owner = fieldsOf ds d owner := by
  have hfield : fieldOf ds' owner = fieldOf ds owner := by
    funext storage e
    simp only [fieldOf, kindOf_same h]
  simp only [fieldsOf, hfield]

theorem linkedAll_same (table : String) (fields : List Field) (names : List String) :
    linkedAll ds' table fields names = linkedAll ds table fields names := by
  induction names with
  | nil => rfl
  | cons name names ih => simp only [linkedAll, linkedOf, h.byTable?, ih]

theorem nestedContracts_same (owner : ResourceDecl) (fields : List Field) :
    nestedContracts ds' owner fields = nestedContracts ds owner fields := by
  induction fields with
  | nil => rfl
  | cons f fields ih => simp only [nestedContracts, h.byName?, ih]

theorem parentOf_same (d : ResourceDecl) : parentOf ds' d = parentOf ds d := by
  simp only [parentOf, h.byName?]

/-- What is computed before the templates depends on what is looked up. -/
theorem parts_same (d : ResourceDecl) : parts ds' d = parts ds d := by
  simp only [parts, parentOf_same h, fieldsOf_same h, linkedAll_same h, nestedContracts_same h]

end SameFinds

/-! ## Dependents -/

/-- The columns of a declaration that hold lists of the keys of a table. -/
def dependentsIn (table pk : String) (other : ResourceDecl) : List Dependent :=
  match other.primaryKey? with
  | none => []
  | some otherPk =>
    (other.fields.filter fun f => f.isManyToMany && f.target? = some (table, pk)).map fun f =>
      ⟨other.tableName, f.name, otherPk.name⟩

theorem dependentsOf_eq (ds : Declarations) (table pk : String) :
    dependentsOf ds table pk = (ds.filter (!·.isKid)).flatMap (dependentsIn table pk) := rfl

theorem dependentsIn_table {table pk : String} {other : ResourceDecl} :
    ∀ e ∈ dependentsIn table pk other, e.table = other.tableName := by
  intro e he
  unfold dependentsIn at he
  split at he
  · exact absurd he List.not_mem_nil
  · obtain ⟨_, _, rfl⟩ := List.mem_map.mp he
    rfl

/-- The dependents in another order. -/
theorem dependentsOf_perm (hperm : ds'.Perm ds) (table pk : String) :
    (dependentsOf ds' table pk).Perm (dependentsOf ds table pk) :=
  (hperm.filter _).flatMap_right _

/-- With a table of their own for all resources, the dependents are grouped alike. -/
theorem groups_perm (htables : ds.tableNames.Nodup) (hperm : ds'.Perm ds) (table pk : String) :
    (DependentTable.ofList (dependentsOf ds' table pk)).Perm
      (DependentTable.ofList (dependentsOf ds table pk)) := by
  have hapart : (ds.filter (!·.isKid)).Pairwise fun a b =>
      ∀ d ∈ dependentsIn table pk a, ∀ e ∈ dependentsIn table pk b, d.table ≠ e.table := by
    refine (List.pairwise_map.mp htables).imp fun hne d hd e he htable => hne ?_
    rw [← dependentsIn_table d hd, ← dependentsIn_table e he, htable]
  rw [dependentsOf_eq, dependentsOf_eq]
  exact (DependentTable.ofList_perm (hperm.filter _).symm hapart).symm

/-! ## Resources -/

/-- A resource is compiled to itself, with its dependents in another order. -/
theorem resource_reordered (h : Declarations.SameFinds ds ds') (htables : ds.tableNames.Nodup)
    (hperm : ds'.Perm ds) (hr : resource ds d = .ok r) :
    ∃ r', resource ds' d = .ok r' ∧ r.Reordered r' := by
  obtain ⟨p, templates, hp, ht, rfl⟩ := resource_ok_iff.mp hr
  have hvalid : p.Valid ds' d := by
    rw [← parts_ok_iff, parts_same h]
    exact parts_ok_iff.mpr hp
  have hview : p.view ds' d = p.view ds d := by
    unfold Parts.view Parts.fields
    rw [fieldsOf_same h]
  have hmade := Statement.templates_ok_iff.mp ht
  -- The clean-up statement is the only template that the dependents go into.
  have hmade' : Statement.Made
      { templates with cleanup := cleanupStatement (p.dependents ds' d) } (p.view ds' d)
      (Parts.hidden d) (p.dependents ds' d) := by
    rw [hview]
    exact { hmade with cleanup := rfl }
  refine ⟨_, resource_ok_iff.mpr ⟨p, _, hvalid, Statement.templates_ok_iff.mpr hmade', rfl⟩, ?_⟩
  refine ⟨?_, dependentsOf_perm hperm _ _, hmade.cleanup, rfl, groups_perm htables hperm _ _⟩
  unfold Parts.resource
  rw [hview]

/-- Declarations in another order resolve to the same resources and tables, in that order. -/
theorem resolve_reordered (hg : ds.resolve = .ok g) (htables : ds.tableNames.Nodup)
    (hperm : ds'.Perm ds) :
    ∃ g', ds'.resolve = .ok g' ∧ g'.resources.map (·.name) = ds'.map (·.name) ∧
      g.Reordered g' := by
  obtain ⟨hcheck, hts, hrs⟩ := resolve_ok_iff.mp hg
  have hfinds := Declarations.reordered_finds hcheck htables hperm
  obtain ⟨ts, hts', htsperm⟩ := TableDef.ofDecls_reordered hts hperm
  obtain ⟨rs, hcompiled, hrsperm⟩ := List.perm_comp_forall₂ hperm hrs
  obtain ⟨rs', hrs', hreordered⟩ :=
    exists_forall₂ (fun _ _ hr => resource_reordered hfinds htables hperm hr) hcompiled
  have hg' : ds'.resolve = .ok ⟨rs', ts⟩ :=
    resolve_ok_iff.mpr ⟨Declarations.check_reordered hcheck hfinds hperm, hts', hrs'⟩
  exact ⟨_, hg', names_compiled hrs', ⟨rs, hrsperm, hreordered⟩, htsperm⟩

/-- Posts and pages that list the keys of their tags. -/
def labelled : Declarations :=
  let tags : FieldDecl := { FieldDecl.plain "tags" .list (some (.simple "jsonb")) with
    items := some .integer, references := some "tag.id", many := true }
  [.plain "Tag" "tag" [.key "id"], .plain "Post" "post" [.key "id", tags],
    .plain "Page" "page" [.key "id", tags]]

/-- A tag is removed from pages before posts if pages are declared before posts. -/
theorem resolve_reordered_labelled :
    ∃ g g', labelled.resolve = .ok g ∧ Declarations.resolve labelled.reverse = .ok g' ∧
      (∃ r ∈ g.resources, r.name = "Tag" ∧
        r.dependents = [⟨"post", "tags", "id"⟩, ⟨"page", "tags", "id"⟩]) ∧
      g'.resources.map (·.name) = ["Page", "Post", "Tag"] ∧ g.Reordered g' := by
  obtain ⟨g, hg, r, hr, hP⟩ := exists_resolved labelled
    (fun r => r.name = "Tag" ∧
      r.dependents = [⟨"post", "tags", "id"⟩, ⟨"page", "tags", "id"⟩])
    (by decide +kernel) (by decide +kernel)
  obtain ⟨g', hg', hnames, hreordered⟩ :=
    resolve_reordered hg (by decide +kernel) (List.reverse_perm labelled)
  exact ⟨g, g', hg, hg', ⟨r, hr, of_decide_eq_true hP⟩, hnames, hreordered⟩

end Compile

end RowServe
