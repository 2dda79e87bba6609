import Mathlib.Data.Finset.Dedup
import Mathlib.Data.List.Induction
import RowServe.Proofs.Request.Selection
import RowServe.Proofs.Resource.Compiles

/-!
# Selections in any order

The entries of a selection come in the order in which their fields are first asked for, and a
name changes what the names before it have left. As a map from fields to sets of parts, a
selection does not depend on that order: an entry is narrowed exactly if some name asks for a
part of its field, whether the field is also asked for as a whole before or behind it.

Results:

* `nodup_parts`: no part is listed twice.
* `parse_represents`: a selection represents the names it is made of.
* `parse_unordered`: when names have a selection, and that their order does not matter for it.
-/

namespace RowServe

namespace Selection

/-! ## Parts of an entry -/

theorem nodup_narrow {s : Selected} (h : (s.sub.getD []).Nodup) (sub : String) :
    ((narrow s sub).sub.getD []).Nodup := by
  unfold narrow
  dsimp only [Option.getD_some]
  split_ifs with hmem
  · exact h
  · have hfresh : sub ∉ s.sub.getD [] := by simpa using hmem
    refine List.nodup_append.mpr ⟨h, List.nodup_singleton sub, ?_⟩
    rintro a ha b hb rfl
    exact hfresh (List.mem_singleton.mp hb ▸ ha)

theorem nodup_merged {x : RequestedField} {s : Option Selected}
    (h : ∀ t, s = some t → (t.sub.getD []).Nodup) : ((merged x s).sub.getD []).Nodup := by
  cases s with
  | none => cases x <;> simp [merged]
  | some t =>
    cases x with
    | whole n => exact h t rfl
    | part n sub => exact nodup_narrow (h t rfl) sub

/-- No part of an entry is listed twice. -/
theorem nodup_parts (xs : List RequestedField) : ∀ s ∈ collect xs, (s.sub.getD []).Nodup := by
  induction xs using List.reverseRecOn with
  | nil => simp [collect]
  | append_singleton xs x ih =>
    intro s hs
    have hcollect : collect (xs ++ [x]) = add x (collect xs) := by
      unfold collect
      rw [List.foldl_append]
      rfl
    rw [hcollect, mem_add x (collect_collected xs).nodup] at hs
    rcases hs with ⟨hs, _⟩ | rfl
    · exact ih s hs
    · exact nodup_merged fun t ht => ih t (List.mem_of_find?_eq_some ht)

/-! ## What a selection represents -/

/-- A selection has one entry for each field that is asked for, with each part once that is asked
    for; it shows the whole field if no part is. -/
structure Represents (names : List String) (selection : List Selected) : Prop where
  fieldsOnce : (selection.map (·.name)).Nodup
  partsOnce : ∀ s ∈ selection, (s.sub.getD []).Nodup
  fields : ∀ n, n ∈ selection.map (·.name) ↔
    ∃ name ∈ names, ∃ x : RequestedField, x.Named name ∧ x.name = n
  parts : ∀ s ∈ selection, ∀ sub, sub ∈ s.sub.getD [] ↔
    ∃ name ∈ names, (RequestedField.part s.name sub).Named name
  whole : ∀ s ∈ selection, s.sub = none ↔
    ∀ sub, ∀ name ∈ names, ¬ (RequestedField.part s.name sub).Named name

/-- A selection as a map: the set of parts that the entry of a field is narrowed to, if it is. -/
def asMap (selection : List Selected) (n : String) : Option (Option (Finset String)) :=
  (selection.find? (·.name = n)).map fun s => s.sub.map List.toFinset

variable {r : Resource} {names names' : List String} {selection selection' : List Selected}

/-- Names with the same members are represented by the same selections. -/
theorem Represents.congr (h : Represents names selection) (hsame : ∀ n, n ∈ names' ↔ n ∈ names) :
    Represents names' selection where
  fieldsOnce := h.fieldsOnce
  partsOnce := h.partsOnce
  fields := by simpa only [hsame] using h.fields
  parts := by simpa only [hsame] using h.parts
  whole := by simpa only [hsame] using h.whole

theorem find?_entry {n : String} (hn : n ∈ selection.map (·.name)) :
    ∃ s ∈ selection, s.name = n ∧ selection.find? (·.name = n) = some s := by
  obtain ⟨s, hs⟩ : ∃ s, selection.find? (·.name = n) = some s := by
    rw [← Option.isSome_iff_exists, List.find?_isSome]
    simpa using hn
  have hname : s.name = n := by simpa using List.find?_some hs
  exact ⟨s, List.mem_of_find?_eq_some hs, hname, hs⟩

/-- Entries of one field have the same parts, or none both. -/
theorem Represents.parts_eq (h : Represents names selection) (h' : Represents names selection')
    {s t : Selected} (hs : s ∈ selection) (ht : t ∈ selection') (hname : t.name = s.name) :
    s.sub.map List.toFinset = t.sub.map List.toFinset := by
  have hparts (sub : String) : sub ∈ s.sub.getD [] ↔ sub ∈ t.sub.getD [] := by
    rw [h.parts s hs, h'.parts t ht, hname]
  have hwhole : s.sub = none ↔ t.sub = none := by
    rw [h.whole s hs, h'.whole t ht, hname]
  cases hsub : s.sub with
  | none => rw [hwhole.mp hsub]
  | some subs =>
    obtain ⟨subs', hsub'⟩ : ∃ subs', t.sub = some subs' := by
      apply Option.ne_none_iff_exists'.mp
      rw [Ne, ← hwhole, hsub]
      exact Option.some_ne_none subs
    rw [hsub, hsub'] at hparts
    rw [hsub', Option.map_some, Option.map_some]
    congr 1
    ext sub
    simpa using hparts sub

/-- The names say which map a selection is. -/
theorem Represents.asMap_eq (h : Represents names selection) (h' : Represents names selection') :
    asMap selection = asMap selection' := by
  funext n
  have hfields : n ∈ selection.map (·.name) ↔ n ∈ selection'.map (·.name) := by
    rw [h.fields, h'.fields]
  unfold asMap
  by_cases hn : n ∈ selection.map (·.name)
  · obtain ⟨s, hs, hname, hfind⟩ := find?_entry hn
    obtain ⟨t, ht, hname', hfind'⟩ := find?_entry (hfields.mp hn)
    rw [hfind, hfind', Option.map_some, Option.map_some,
      h.parts_eq h' hs ht (hname'.trans hname.symm)]
  · have hnone : selection.find? (·.name = n) = none := by simpa using hn
    have hnone' : selection'.find? (·.name = n) = none := by simpa using mt hfields.mpr hn
    rw [hnone, hnone']

/-- An entry is not narrowed exactly if no part of its field is asked for. -/
theorem Collected.sub_eq_none_iff {xs : List RequestedField} (h : Collected xs selection)
    {s : Selected} (hs : s ∈ selection) : s.sub = none ↔ ∀ sub, .part s.name sub ∉ xs := by
  constructor
  · intro hnone sub hsub
    rw [← h.parts s hs, hnone] at hsub
    exact absurd hsub List.not_mem_nil
  · intro hno
    cases hsub : s.sub with
    | none => rfl
    | some subs =>
      obtain ⟨sub, hmem⟩ : ∃ sub, sub ∈ subs := by
        apply List.exists_mem_of_ne_nil
        rintro rfl
        exact h.narrowed s hs hsub
      refine absurd ((h.parts s hs sub).mp ?_) (hno sub)
      rw [hsub]
      exact hmem

/-- If all names are offered, what the resource makes of them is all that they ask for. -/
theorem mem_requested_iff (hoffered : ∀ name ∈ names, (requested? r name).isSome)
    (x : RequestedField) :
    x ∈ names.filterMap (requested? r) ↔ ∃ name ∈ names, x.Named name := by
  rw [List.mem_filterMap]
  constructor
  · rintro ⟨name, hname, hx⟩
    exact ⟨name, hname, ((requested?_eq_some_iff r name x).mp hx).1⟩
  · rintro ⟨name, hname, hx⟩
    obtain ⟨y, hy⟩ := Option.isSome_iff_exists.mp (hoffered name hname)
    have hnamed := ((requested?_eq_some_iff r name y).mp hy).1
    rw [RequestedField.named_iff] at hx hnamed
    exact ⟨name, hname, by rw [hy, ← hnamed, hx]⟩

theorem parse_represents (h : parse r names = .ok selection) : Represents names selection := by
  have hmem := mem_requested_iff ((parse_ok_iff r names).mp ⟨selection, h⟩)
  obtain rfl := parse_ok h
  have hcollected := collect_collected (names.filterMap (requested? r))
  refine ⟨hcollected.nodup, nodup_parts _, ?_, ?_, ?_⟩
  · intro n
    rw [hcollected.asked]
    constructor
    · rintro ⟨x, hx, hn⟩
      obtain ⟨name, hname, hnamed⟩ := (hmem x).mp hx
      exact ⟨name, hname, x, hnamed, hn⟩
    · rintro ⟨name, hname, x, hnamed, hn⟩
      exact ⟨x, (hmem x).mpr ⟨name, hname, hnamed⟩, hn⟩
  · intro s hs sub
    rw [hcollected.parts s hs, hmem]
  · intro s hs
    rw [hcollected.sub_eq_none_iff hs]
    apply forall_congr'
    intro sub
    rw [hmem, not_exists]
    simp only [not_and]

theorem parse_alone_iff (r : Resource) (name : String) :
    (∃ selection, parse r [name] = .ok selection) ↔ ∃ x, x.Named name ∧ r.Offers x := by
  rw [parse_ok_iff, List.forall_mem_singleton, Option.isSome_iff_exists]
  exact exists_congr fun x => requested?_eq_some_iff r name x

/-- Names have a selection exactly if each of them has one alone, which is if the resource has to
    show what it asks for. The selection represents the names, and names with the same members,
    in any order and however often, have selections that are the same as maps. -/
theorem parse_unordered (r : Resource) (names : List String) :
    ((∃ selection, parse r names = .ok selection) ↔
        ∀ name ∈ names, ∃ selection, parse r [name] = .ok selection) ∧
      (∀ name, (∃ selection, parse r [name] = .ok selection) ↔
        ∃ x, x.Named name ∧ r.Offers x) ∧
      ∀ selection, parse r names = .ok selection → Represents names selection ∧
        ∀ names', (∀ name, name ∈ names' ↔ name ∈ names) →
          ∃ selection', parse r names' = .ok selection' ∧ asMap selection' = asMap selection := by
  have hall (names : List String) : (∃ selection, parse r names = .ok selection) ↔
      ∀ name ∈ names, ∃ selection, parse r [name] = .ok selection := by
    simp only [parse_ok_iff, List.forall_mem_singleton]
  refine ⟨hall names, parse_alone_iff r, fun selection h => ⟨parse_represents h, ?_⟩⟩
  intro names' hsame
  obtain ⟨selection', h'⟩ : ∃ selection', parse r names' = .ok selection' := by
    rw [hall]
    intro name hname
    exact (hall names).mp ⟨selection, h⟩ name ((hsame name).mp hname)
  exact ⟨selection', h', (parse_represents h').asMap_eq ((parse_represents h).congr hsame)⟩

/-- A producer that is asked for as a whole, and also by name: the name is what is left, whichever
    comes first, although the fields then come in another order. -/
theorem parse_unordered_shop :
    ∃ g, Declarations.shop.resolve = .ok g ∧ ∃ r ∈ g.resources, r.name = "Product" ∧
      ∃ selection', parse r ["producer.name", "producer", "id"] = .ok selection' ∧
        selection' ≠ [⟨"id", none⟩, ⟨"producer", some ["name"]⟩] ∧
        asMap selection' = asMap [⟨"id", none⟩, ⟨"producer", some ["name"]⟩] := by
  obtain ⟨g, hg, r, hr, hP⟩ := Compile.exists_resolved Declarations.shop
    (fun r => r.name = "Product" ∧
      (parse r ["id", "producer", "producer.name"]).toOption =
        some [⟨"id", none⟩, ⟨"producer", some ["name"]⟩] ∧
      (parse r ["producer.name", "producer", "id"]).toOption ≠
        some [⟨"id", none⟩, ⟨"producer", some ["name"]⟩])
    (by decide +kernel) (by decide +kernel)
  obtain ⟨hname, hok, hother⟩ := of_decide_eq_true hP
  obtain ⟨_, _, hordered⟩ := parse_unordered r ["id", "producer", "producer.name"]
  obtain ⟨_, hsame⟩ := hordered _ (toOption_eq_some.mp hok)
  have hperm : ["producer.name", "producer", "id"].Perm ["id", "producer", "producer.name"] :=
    List.reverse_perm ["id", "producer", "producer.name"]
  obtain ⟨selection', h', hmap⟩ := hsame _ fun name => hperm.mem_iff
  refine ⟨g, hg, r, hr, hname, selection', h', ?_, hmap⟩
  rw [h'] at hother
  exact fun heq => hother (congrArg some heq)

end Selection

end RowServe
