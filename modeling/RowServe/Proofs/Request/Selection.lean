import Mathlib.Data.List.Nodup
import RowServe.Request.Selection

/-!
# What selections ask for

A selection has one entry for every field that is asked for. An entry is narrowed to the
parts that some name asks for, in whatever order the names come; it is not narrowed if no
name asks for a part of it.

Results:

* `requested?_eq_some_iff`: what a name asks for, by the form of the name.
* `mem_add`: what adding a name changes.
* `collect_collected`: the entries of a selection.
* `Chosen.entry`: an entry has the parts that are asked for.
-/

namespace RowServe

/-- The field of a resource that a name is about. -/
def RequestedField.name : RequestedField → String
  | whole name => name
  | part name _ => name

@[simp] theorem RequestedField.name_whole (name : String) : (whole name).name = name := rfl

@[simp] theorem RequestedField.name_part (name sub : String) : (part name sub).name = name := rfl

/-! ## Names and what they ask for -/

namespace RequestedField

/-- The name of a field in a request: a text without a dot asks for a whole field, and any other
    one for the part behind its first dot. -/
inductive Named : RequestedField → String → Prop where
  | whole {n : String} (h : '.' ∉ n.toList) : Named (.whole n) n
  | part {n sub : String} (h : '.' ∉ n.toList) : Named (.part n sub) (n ++ "." ++ sub)

/-- What a name asks for. -/
def ofName (name : String) : RequestedField :=
  match Text.splitOnce '.' name.toList with
  | some (outer, inner) => .part (String.ofList outer) (String.ofList inner)
  | none => .whole name

theorem toList_dotted (n sub : String) :
    (n ++ "." ++ sub).toList = n.toList ++ '.' :: sub.toList := by
  simp [String.toList_append]

/-- A name asks for one thing only. -/
theorem named_iff {x : RequestedField} {name : String} : x.Named name ↔ ofName name = x := by
  unfold ofName
  constructor
  · intro h
    cases h with
    | whole hdot => rw [Text.splitOnce_eq_none_iff.mpr hdot]
    | part hdot =>
      rw [toList_dotted, Text.splitOnce_of_split hdot]
      dsimp only
      rw [String.ofList_toList, String.ofList_toList]
  · rintro rfl
    cases hsplit : Text.splitOnce '.' name.toList with
    | some parts =>
      obtain ⟨outer, inner⟩ := parts
      obtain ⟨htext, hdot⟩ := Text.splitOnce_eq_some hsplit
      have hname : name = String.ofList outer ++ "." ++ String.ofList inner := by
        apply String.toList_injective
        rw [toList_dotted, String.toList_ofList, String.toList_ofList, htext]
      rw [hname]
      exact .part (by rwa [String.toList_ofList])
    | none => exact .whole (Text.splitOnce_eq_none_iff.mp hsplit)

end RequestedField

/-- A resource has its readable fields to show, except the column of a nested extension, and
    the columns of linked rows that have a cast. -/
def Resource.Offers (r : Resource) : RequestedField → Prop
  | .whole n => (∃ f, r.field? n = some f ∧ f.isReadable = true) ∧ r.kidColumn ≠ some n
  | .part n sub => ∃ j, r.join? n = some j ∧ j.casts.has sub = true

namespace Selection

/-- A name asks for what it is the name of, if the resource has that to show. -/
theorem requested?_eq_some_iff (r : Resource) (name : String) (x : RequestedField) :
    requested? r name = some x ↔ x.Named name ∧ r.Offers x := by
  rw [RequestedField.named_iff]
  unfold requested? RequestedField.ofName
  cases Text.splitOnce '.' name.toList with
  | some parts =>
    dsimp only
    rw [Option.ite_none_right_eq_some, Option.some.injEq, Option.any_eq_true]
    constructor
    · rintro ⟨hoffered, rfl⟩
      exact ⟨rfl, hoffered⟩
    · rintro ⟨rfl, hoffered⟩
      exact ⟨hoffered, rfl⟩
  | none =>
    dsimp only
    rw [Option.ite_none_right_eq_some, Option.some.injEq, Bool.and_eq_true, Option.any_eq_true,
      decide_eq_true_eq]
    constructor
    · rintro ⟨hoffered, rfl⟩
      exact ⟨rfl, hoffered⟩
    · rintro ⟨rfl, hoffered⟩
      exact ⟨hoffered, rfl⟩

/-! ## One more name -/

/-- The entry of a field with one more name, which may be the first one for it. -/
def merged (x : RequestedField) (s : Option Selected) : Selected :=
  match x, s with
  | .whole name, none => ⟨name, none⟩
  | .whole _, some s => s
  | .part name sub, none => ⟨name, some [sub]⟩
  | .part _ sub, some s => narrow s sub

theorem add_nil (x : RequestedField) : add x [] = [merged x none] := by
  cases x <;> rfl

theorem add_cons (x : RequestedField) (s : Selected) (rest : List Selected) :
    add x (s :: rest) =
      if s.name = x.name then merged x (some s) :: rest else s :: add x rest := by
  cases x <;> rfl

theorem merged_name {x : RequestedField} {s : Option Selected}
    (h : ∀ t, s = some t → t.name = x.name) : (merged x s).name = x.name := by
  cases s with
  | none => cases x <;> rfl
  | some t => cases x <;> exact h t rfl

theorem names_add (x : RequestedField) (out : List Selected) :
    (add x out).map (·.name) =
      if x.name ∈ out.map (·.name) then out.map (·.name) else out.map (·.name) ++ [x.name] := by
  induction out with
  | nil =>
    have hname := merged_name (x := x) (s := none) (by simp)
    rw [add_nil]
    simpa using hname
  | cons s out ih =>
    rw [add_cons]
    by_cases hs : s.name = x.name
    · have hname : (merged x (some s)).name = x.name :=
        merged_name fun t ht => Option.some.inj ht ▸ hs
      simp [hs, hname]
    · have hne : x.name ≠ s.name := fun h => hs h.symm
      rw [if_neg hs, List.map_cons, ih, List.map_cons]
      by_cases hmem : x.name ∈ out.map (·.name)
      · simp only [if_pos hmem, if_pos (List.mem_cons_of_mem _ hmem)]
      · rw [if_neg hmem, if_neg (by simp [hne, hmem])]
        rfl

/-- Adding a name leaves the entries of other fields alone. -/
theorem mem_add (x : RequestedField) {out : List Selected} (h : (out.map (·.name)).Nodup)
    (s : Selected) :
    s ∈ add x out ↔
      (s ∈ out ∧ s.name ≠ x.name) ∨ s = merged x (out.find? (·.name = x.name)) := by
  induction out with
  | nil => simp [add_nil]
  | cons t out ih =>
    rw [List.map_cons, List.nodup_cons] at h
    obtain ⟨hfresh, hrest⟩ := h
    rw [add_cons]
    by_cases ht : t.name = x.name
    · have hothers : ∀ u ∈ out, u.name ≠ x.name := by
        intro u hu he
        exact hfresh (List.mem_map.mpr ⟨u, hu, he.trans ht.symm⟩)
      rw [if_pos ht, List.find?_cons_of_pos (by simpa using ht), List.mem_cons, List.mem_cons]
      constructor
      · rintro (rfl | hs)
        · exact .inr rfl
        · exact .inl ⟨.inr hs, hothers s hs⟩
      · rintro (⟨rfl | hs, hne⟩ | rfl)
        · exact absurd ht hne
        · exact .inr hs
        · exact .inl rfl
    · rw [if_neg ht, List.find?_cons_of_neg (by simpa using ht), List.mem_cons, List.mem_cons,
        ih hrest]
      constructor
      · rintro (rfl | ⟨hs, hne⟩ | rfl)
        · exact .inl ⟨.inl rfl, ht⟩
        · exact .inl ⟨.inr hs, hne⟩
        · exact .inr rfl
      · rintro (⟨rfl | hs, hne⟩ | rfl)
        · exact .inl rfl
        · exact .inr (.inl ⟨hs, hne⟩)
        · exact .inr (.inr rfl)

/-! ## All names -/

/-- The entries for what was asked for so far. -/
structure Collected (xs : List RequestedField) (out : List Selected) : Prop where
  nodup : (out.map (·.name)).Nodup
  asked : ∀ n, n ∈ out.map (·.name) ↔ ∃ x ∈ xs, x.name = n
  parts : ∀ s ∈ out, ∀ c, c ∈ s.sub.getD [] ↔ .part s.name c ∈ xs
  narrowed : ∀ s ∈ out, s.sub ≠ some []

theorem mem_narrow (s : Selected) (sub c : String) :
    c ∈ (narrow s sub).sub.getD [] ↔ c ∈ s.sub.getD [] ∨ c = sub := by
  unfold narrow
  dsimp only [Option.getD_some]
  split_ifs with hmem
  · have hsub : sub ∈ s.sub.getD [] := by simpa using hmem
    exact ⟨.inl, fun h => h.elim id fun he => he ▸ hsub⟩
  · simp

theorem narrow_ne (s : Selected) (sub : String) : (narrow s sub).sub ≠ some [] := by
  unfold narrow
  dsimp only
  split_ifs with hmem
  · intro h
    rw [Option.some.inj h] at hmem
    exact absurd hmem (by simp)
  · simp

theorem Collected.nil : Collected [] [] := ⟨by simp, by simp, by simp, by simp⟩

theorem mem_names_add (x : RequestedField) (out : List Selected) (n : String) :
    n ∈ (add x out).map (·.name) ↔ n ∈ out.map (·.name) ∨ n = x.name := by
  rw [names_add]
  split_ifs with hmem
  · exact ⟨.inl, fun hn => hn.elim id fun he => he ▸ hmem⟩
  · simp

theorem nodup_names_add {x : RequestedField} {out : List Selected}
    (h : (out.map (·.name)).Nodup) : ((add x out).map (·.name)).Nodup := by
  rw [names_add]
  split_ifs with hmem
  · exact h
  · refine List.nodup_append.mpr ⟨h, List.nodup_singleton _, ?_⟩
    rintro a ha b hb rfl
    exact hmem (List.mem_singleton.mp hb ▸ ha)

/-- The entry that a name changes has the parts it had, and the one that is asked for. -/
theorem Collected.merged_parts {xs : List RequestedField} {out : List Selected}
    (h : Collected xs out) (x : RequestedField) (c : String) :
    c ∈ (merged x (out.find? (·.name = x.name))).sub.getD [] ↔ .part x.name c ∈ xs ++ [x] := by
  cases hfind : out.find? (·.name = x.name) with
  | none =>
    have hfresh : .part x.name c ∉ xs := by
      intro hc
      obtain ⟨t, ht, hname⟩ := List.mem_map.mp ((h.asked x.name).mpr ⟨_, hc, rfl⟩)
      exact absurd hname (by simpa using List.find?_eq_none.mp hfind t ht)
    cases x with
    | whole name => simpa [merged] using hfresh
    | part name sub =>
      rw [RequestedField.name_part] at hfresh ⊢
      simp [merged, hfresh]
  | some t =>
    have hname : t.name = x.name := by simpa using List.find?_some hfind
    have hparts := h.parts t (List.mem_of_find?_eq_some hfind) c
    rw [hname] at hparts
    cases x with
    | whole name => simpa [merged] using hparts
    | part name sub =>
      rw [RequestedField.name_part] at hparts ⊢
      simp [merged, mem_narrow, hparts]

theorem Collected.merged_ne {xs : List RequestedField} {out : List Selected}
    (h : Collected xs out) (x : RequestedField) :
    (merged x (out.find? (·.name = x.name))).sub ≠ some [] := by
  cases hfind : out.find? (·.name = x.name) with
  | none => cases x <;> simp [merged]
  | some t =>
    cases x with
    | whole name => exact h.narrowed t (List.mem_of_find?_eq_some hfind)
    | part name sub => exact narrow_ne t sub

/-- A name adds a part to the entry of its field, and to no other entry. -/
theorem Collected.add {xs : List RequestedField} {out : List Selected} (h : Collected xs out)
    (x : RequestedField) : Collected (xs ++ [x]) (add x out) := by
  refine ⟨nodup_names_add h.nodup, fun n => ?_, fun s hs => ?_, fun s hs => ?_⟩
  · rw [mem_names_add, h.asked]
    constructor
    · rintro (⟨y, hy, rfl⟩ | rfl)
      · exact ⟨y, List.mem_append_left _ hy, rfl⟩
      · exact ⟨x, by simp, rfl⟩
    · rintro ⟨y, hy, rfl⟩
      rcases List.mem_append.mp hy with hy | hy
      · exact .inl ⟨y, hy, rfl⟩
      · exact .inr (congrArg _ (List.mem_singleton.mp hy))
  · intro c
    rcases (mem_add x h.nodup s).mp hs with ⟨hs, hne⟩ | rfl
    · have hother : .part s.name c ≠ x := fun he => hne (congrArg RequestedField.name he)
      rw [h.parts s hs c, List.mem_append, List.mem_singleton]
      exact (or_iff_left hother).symm
    · have hname : (merged x (out.find? (·.name = x.name))).name = x.name :=
        merged_name fun t ht => by simpa using List.find?_some ht
      rw [hname]
      exact h.merged_parts x c
  · rcases (mem_add x h.nodup s).mp hs with ⟨hs, _⟩ | rfl
    · exact h.narrowed s hs
    · exact h.merged_ne x

/-- The entries of a selection are those for all that is asked for. -/
theorem collect_collected (xs : List RequestedField) : Collected xs (collect xs) := by
  have hfold : ∀ ys done out, Collected done out →
      Collected (done ++ ys) (ys.foldl (fun out x => add x out) out) := by
    intro ys
    induction ys with
    | nil => exact fun done out h => by simpa using h
    | cons y ys ih =>
      intro done out h
      simpa using ih (done ++ [y]) (add y out) (h.add y)
  exact hfold xs [] [] .nil

/-! ## Chosen selections -/

/-- The selection for the names of a request, which may have none. -/
inductive Chosen (r : Resource) : Option (List String) → Option (List Selected) → Prop where
  | default : Chosen r none none
  | parsed {names : List String} {selection : List Selected}
      (h : parse r names = .ok selection) : Chosen r (some names) (some selection)

/-- What a request asks to see: what its names say, or else all that is shown by default. -/
def Asks (r : Resource) (names : Option (List String)) (x : RequestedField) : Prop :=
  match names with
  | none => ∃ s ∈ Selection.default r.toTableView r.kidColumn, x = .whole s.name
  | some names => ∃ n ∈ names, requested? r n = some x

/-- The entries of a selection, or else those of the default. -/
def entries (r : Resource) (selection : Option (List Selected)) : List Selected :=
  selection.getD (Selection.default r.toTableView r.kidColumn)

variable {r : Resource} {names : Option (List String)} {selection : Option (List Selected)}

theorem parse_ok {names : List String} {selection : List Selected}
    (h : parse r names = .ok selection) :
    selection = collect (names.filterMap (requested? r)) := by
  unfold parse at h
  split at h
  · exact (Except.ok.inj h).symm
  · contradiction

theorem default_whole {view : TableView} {hidden : Option String} {s : Selected}
    (h : s ∈ Selection.default view hidden) : s.sub = none := by
  obtain ⟨f, _, rfl⟩ := List.mem_map.mp h
  rfl

/-- An entry is for a field that is asked for, with the parts that are asked for. -/
theorem Chosen.entry (h : Chosen r names selection) {s : Selected} (hs : s ∈ entries r selection) :
    (∃ x, Asks r names x ∧ x.name = s.name) ∧
      (∀ c, c ∈ s.sub.getD [] ↔ Asks r names (.part s.name c)) ∧ s.sub ≠ some [] := by
  cases h with
  | default =>
    have hsub := default_whole hs
    refine ⟨⟨.whole s.name, ⟨s, hs, rfl⟩, rfl⟩, fun c => ?_, ?_⟩
    · simp [hsub, Asks]
    · simp [hsub]
  | @parsed names selection h =>
    have hcollected := collect_collected (names.filterMap (requested? r))
    rw [← parse_ok h] at hcollected
    obtain ⟨x, hx, hname⟩ := (hcollected.asked s.name).mp (List.mem_map_of_mem hs)
    refine ⟨⟨x, List.mem_filterMap.mp hx, hname⟩, fun c => ?_, hcollected.narrowed s hs⟩
    exact (hcollected.parts s hs c).trans List.mem_filterMap

/-- Every field that is asked for has an entry. -/
theorem Chosen.exists_entry (h : Chosen r names selection) {x : RequestedField}
    (hx : Asks r names x) : ∃ s ∈ entries r selection, s.name = x.name := by
  cases h with
  | default =>
    obtain ⟨s, hs, rfl⟩ := hx
    exact ⟨s, hs, rfl⟩
  | @parsed names selection h =>
    have hcollected := collect_collected (names.filterMap (requested? r))
    rw [← parse_ok h] at hcollected
    exact List.mem_map.mp
      ((hcollected.asked x.name).mpr ⟨x, List.mem_filterMap.mpr hx, rfl⟩)

/-- Only readable fields are asked for as a whole. -/
theorem asks_whole {n : String} (h : Asks r names (.whole n)) :
    ∃ f ∈ r.fields, f.name = n ∧ f.isReadable = true := by
  cases names with
  | none =>
    obtain ⟨s, hs, he⟩ := h
    obtain ⟨f, hf, hreadable, hname⟩ := default_names hs
    exact ⟨f, hf, hname.trans (RequestedField.whole.inj he).symm, hreadable⟩
  | some names =>
    obtain ⟨name, _, hname⟩ := h
    obtain ⟨_, ⟨f, hfind, hreadable⟩, _⟩ := (requested?_eq_some_iff r name _).mp hname
    exact ⟨f, List.mem_of_find?_eq_some hfind, TableView.field?_name hfind, hreadable⟩

/-- Only linked rows are asked for in part. -/
theorem asks_part {n c : String} (h : Asks r names (.part n c)) :
    ∃ j, r.join? n = some j ∧ j.casts.has c = true := by
  cases names with
  | none =>
    obtain ⟨s, _, he⟩ := h
    contradiction
  | some names =>
    obtain ⟨name, _, hname⟩ := h
    exact ((requested?_eq_some_iff r name _).mp hname).2

end Selection

end RowServe
