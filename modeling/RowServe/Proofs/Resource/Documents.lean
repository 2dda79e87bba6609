import RowServe.Proofs.Resource.Repeats
import RowServe.Proofs.Resource.Writes

/-!
# Documents in statements that write

Which value the placeholder of a column points at, when a payload has an object for the
column. An insert binds nothing before its values, so the value is the object. An update
binds its filter first, and a filter may bind something under the same name; then the
column gets that.

Results:

* `sets_changed`: the values of columns that are changed, behind other uses.
* `inserted_sets_value`, `generated_sets`: what a column gets from an insert, for any value.
* `update_sets_iff`, `insert_sets_iff`: the value that a column gets for an object.
-/

namespace RowServe

open RowServe.Filter (bindAll filterUses mem_useOf useOf)
open Sql (Assigned Assignment Param)

/-- A column gets a value: an assignment to it has a placeholder that points at the value. -/
def Sql.Sets (values : List Assignment) (params : List Param) (column : String) (v : Param) :
    Prop :=
  ∃ a ∈ values, a.column = column ∧ ∃ p ∈ a.value.placeholders, params[p.position - 1]? = some v

/-- A field is found by its name. -/
theorem Field.exists_named {fields : List Field} {c : String} (hc : c ∈ fields.map Field.name) :
    ∃ f, fields.find? (·.name = c) = some f := by
  obtain ⟨f, hf, rfl⟩ := List.mem_map.mp hc
  exact Option.isSome_iff_exists.mp (List.find?_isSome.mpr ⟨f, hf, decide_eq_true rfl⟩)

namespace Change

/-! ## What is bound for a column -/

/-- The uses of values that are changed, each under the name of its column behind a mark. -/
def markedUses (mark : String) (param : Field → Json → Param × Option String)
    (entries : List (Field × Json)) : List Use :=
  entries.flatMap fun e => useOf (.payload e.1.name) (mark ++ e.1.name) (param e.1) e.2

variable {mark : String} {param : Field → Json → Param × Option String}
  {entries : List (Field × Json)} {u : Use}

theorem mem_markedUses (h : u ∈ markedUses mark param entries) :
    ∃ e ∈ entries, u.name = mark ++ e.1.name ∧ u.value = (param e.1 e.2).1 := by
  obtain ⟨e, he, hu⟩ := List.mem_flatMap.mp h
  refine ⟨e, he, ?_⟩
  rw [mem_useOf hu]
  exact ⟨rfl, rfl⟩

theorem useOf_of_ne {origin : Origin} {name : String} {param : Json → Param × Option String}
    {v : Json} (h : v.isNull = false) :
    useOf origin name param v = [⟨origin, name, (param v).1, (param v).2⟩] := by
  unfold useOf
  rw [if_neg (by simp [h])]

/-- The place of a column that is changed to something points at what is bound first under its
    marked name. -/
theorem first_at_changed (mark : String) (param : Field → Json → Param × Option String)
    {e : Field × Json} (he : e ∈ entries) (hnull : e.2.isNull = false) (first : List Use) :
    let uses := first ++ markedUses mark param entries
    ∃ u, uses.find? (·.name = mark ++ e.1.name) = some u ∧
      (bindAll [] uses).params[((bindAll [] uses).place (mark ++ e.1.name)
        (param e.1 e.2).2).position - 1]? = some u.value := by
  intro uses
  have hmem : ⟨.payload e.1.name, mark ++ e.1.name, (param e.1 e.2).1, (param e.1 e.2).2⟩ ∈
      uses := by
    refine List.mem_append_right _ (List.mem_flatMap.mpr ⟨e, he, ?_⟩)
    rw [useOf_of_ne hnull]
    exact List.mem_singleton.mpr rfl
  exact Call.first_at_place hmem

/-- A column gets a value if it is changed to something, and then it gets what is bound first
    under its marked name. -/
theorem sets_changed {value : Field → Json → Assigned} {first : List Use}
    (hvalue : ∀ f v, (value f v).placeholders =
      (useOf (.payload f.name) (mark ++ f.name) (param f) v).map
        (·.place (bindAll [] (first ++ markedUses mark param entries)))) {c : String} {w : Param} :
    Sql.Sets (entries.map fun e => ⟨e.1.name, value e.1 e.2⟩)
        (bindAll [] (first ++ markedUses mark param entries)).params c w ↔
      (∃ e ∈ entries, e.1.name = c ∧ e.2.isNull = false) ∧
        ((first ++ markedUses mark param entries).find? (·.name = mark ++ c)).map (·.value) =
          some w := by
  have hplaced : ∀ e ∈ entries, e.2.isNull = false →
      ∃ p, (value e.1 e.2).placeholders = [p] ∧
        (bindAll [] (first ++ markedUses mark param entries)).params[p.position - 1]? =
          ((first ++ markedUses mark param entries).find? (·.name = mark ++ e.1.name)).map
            (·.value) := by
    intro e he hnull
    obtain ⟨u, hfirst, hparam⟩ := first_at_changed mark param he hnull first
    refine ⟨_, by rw [hvalue, useOf_of_ne hnull]; rfl, ?_⟩
    rw [hfirst]
    exact hparam
  constructor
  · rintro ⟨a, ha, rfl, p, hp, hparam⟩
    obtain ⟨e, he, rfl⟩ := List.mem_map.mp ha
    have hnull : e.2.isNull = false := by
      by_contra hnot
      rw [hvalue, useOf, if_pos (by simpa using hnot)] at hp
      exact List.not_mem_nil hp
    obtain ⟨q, hq, hfirst⟩ := hplaced e he hnull
    obtain rfl : p = q := List.mem_singleton.mp (hq ▸ hp)
    exact ⟨⟨e, he, rfl, hnull⟩, hfirst.symm.trans hparam⟩
  · rintro ⟨⟨e, he, rfl, hnull⟩, hfirst⟩
    obtain ⟨p, hp, hparam⟩ := hplaced e he hnull
    refine ⟨_, List.mem_map_of_mem he, rfl, p, ?_, hparam.trans hfirst⟩
    rw [hp]
    exact List.mem_singleton.mpr rfl

/-- The value under the marked name of a column that is changed is made of its value. -/
theorem find?_markedUses {payload : Object} {skip : Option String} {fields : List Field}
    {c : String} (h : (markedUses mark param (changed payload skip fields)).find?
      (·.name = mark ++ c) = some u) :
    ∃ f v, payload.find? c = some v ∧ u.value = (param f v).1 := by
  obtain ⟨e, he, hname, hvalue⟩ := mem_markedUses (List.mem_of_find?_eq_some h)
  have hmarked : u.name = mark ++ c := by simpa using List.find?_some h
  obtain ⟨_, hv⟩ := mem_changed he
  rw [(String.append_right_inj mark).mp (hname.symm.trans hmarked)] at hv
  exact ⟨e.1, e.2, hv, hvalue⟩

/-- The first use under the marked name of a column that is changed is that of the first field
    of the name. -/
theorem find?_markedUses_changed (mark : String) (param : Field → Json → Param × Option String)
    {payload : Object} {skip : Option String} {c : String} {v : Json}
    (hv : payload.find? c = some v) (hnull : v.isNull = false) (hskip : skip ≠ some c)
    (fields : List Field) :
    (markedUses mark param (changed payload skip fields)).find? (·.name = mark ++ c) =
      (fields.find? (·.name = c)).map fun f =>
        ⟨.payload c, mark ++ c, (param f v).1, (param f v).2⟩ := by
  induction fields with
  | nil => rfl
  | cons f fields ih =>
    rw [changed_cons, markedUses, List.flatMap_append, List.find?_append, List.find?_cons]
    by_cases hname : f.name = c
    · subst hname
      rw [if_neg hskip, hv]
      simp [useOf_of_ne hnull]
    · have hother : ((if skip = some f.name then [] else
          ((payload.find? f.name).map (f, ·)).toList).flatMap fun e =>
            useOf (.payload e.1.name) (mark ++ e.1.name) (param e.1) e.2).find?
              (·.name = mark ++ c) = none := by
        refine List.find?_eq_none.mpr fun u hu => ?_
        obtain ⟨e, he, hu⟩ := List.mem_flatMap.mp hu
        have hf : e.1 = f := by
          split_ifs at he
          · exact absurd he List.not_mem_nil
          · obtain ⟨w, _, rfl⟩ := Option.map_eq_some_iff.mp (Option.mem_toList.mp he)
            rfl
        rw [mem_useOf hu, hf]
        simpa using hname
      simp only [hother, hname, decide_false, Option.none_or]
      exact ih

/-- What a column gets for an object is the object, if nothing else comes first. -/
theorem first_of_object (mark : String) (hparam : ∀ f es, (param f (.obj es)).1 = .json (.obj es))
    {payload : Object} {skip : Option String} {fields : List Field} {c : String}
    {es : Object} (hv : payload.find? c = some (.obj es)) (hc : c ∈ fields.map Field.name)
    (hskip : skip ≠ some c) (first : List Use) :
    (∃ e ∈ changed payload skip fields, e.1.name = c ∧ e.2.isNull = false) ∧
      ((first ++ markedUses mark param (changed payload skip fields)).find?
          (·.name = mark ++ c)).map (·.value) =
        some (((first.find? (·.name = mark ++ c)).map (·.value)).getD (.json (.obj es))) := by
  obtain ⟨f, hf, rfl⟩ := List.mem_map.mp hc
  have hchanged : (f, .obj es) ∈ changed payload skip fields :=
    mem_changed_iff.mpr ⟨hf, hskip, hv⟩
  refine ⟨⟨_, hchanged, rfl, rfl⟩, ?_⟩
  rw [List.find?_append, find?_markedUses_changed mark param hv rfl hskip]
  cases first.find? (·.name = mark ++ f.name) with
  | some u => rfl
  | none =>
    obtain ⟨f', hfound⟩ := Field.exists_named hc
    rw [hfound, Option.none_or, Option.map_some, Option.map_some, hparam]
    rfl

theorem columnParam_object {f : Field} {v : Json} {es : Object}
    (h : (Filter.columnParam f v).1 = .json (.obj es)) : v = .obj es := by
  unfold Filter.columnParam at h
  cases v with
  | obj es' => exact congrArg Json.obj (Json.obj.inj (Param.json.inj h))
  | arr items => exact absurd (Param.json.inj h) (by simp)
  | null | bool b | num n | str s =>
    dsimp only at h
    split_ifs at h
    · exact absurd (Param.json.inj h) (by simp)
    · contradiction

end Change

namespace Resource

variable {r : Resource} {filter payload : Object} {c : String}

theorem assignmentsBehind_eq (r : Resource) (op : Operation) (filter payload : Object) :
    r.assignmentsBehind op filter payload =
      Change.assignmentsAt (bindAll [] ((Call.update op filter payload).uses r)) r.toTableView
        payload op r.kidColumn := by
  unfold assignmentsBehind Call.uses
  rw [Change.assignments_eq, Filter.bindAll_append]

/-- What an update writes to a column that its payload has an object for. -/
def document (r : Resource) (filter : Object) (c : String) (es : Object) : Param :=
  (((filterUses r.toTableView filter).find? (·.name = "u_" ++ c)).map (·.value)).getD
    (.json (.obj es))

/-- A column that is updated to an object gets it, if the filter binds nothing under the name of
    the column, and else what the filter binds. -/
theorem update_sets_iff (op : Operation) {es : Object} (hv : payload.find? c = some (.obj es))
    (hc : c ∈ r.columnNames) (hkey : c ≠ r.pk) {w : Param} :
    Sql.Sets (r.assignmentsBehind op filter payload)
        (bindAll [] ((Call.update op filter payload).uses r)).params c w ↔
      w = r.document filter c es := by
  have hplaced (f : Field) (v : Json) : (Change.assignedAt
      (bindAll [] ((Call.update op filter payload).uses r)) r.toTableView op r.kidColumn f
        v).placeholders = (useOf (.payload f.name) ("u_" ++ f.name)
          (Change.assignedParam op r.kidColumn f) v).map
            (·.place (bindAll [] ((Call.update op filter payload).uses r))) := by
    unfold Change.assignedAt useOf
    dsimp only
    split_ifs <;> rfl
  have hparam (f : Field) (es : Object) :
      (Change.assignedParam op r.kidColumn f (.obj es)).1 = .json (.obj es) := by
    unfold Change.assignedParam
    split_ifs <;> rfl
  have hskip : some r.pk ≠ some c := fun h => hkey (Option.some.inj h).symm
  obtain ⟨hchanged, hfirst⟩ := Change.first_of_object "u_" hparam hv hc hskip
    (filterUses r.toTableView filter)
  rw [assignmentsBehind_eq]
  refine (Change.sets_changed hplaced).trans ?_
  rw [and_iff_right hchanged, hfirst, Option.some.injEq, eq_comm]
  rfl

theorem insertedValues_sets {values : List Assignment} {params : List Param} {w : Param} :
    Sql.Sets ((r.autoincrement.map fun sequence => ⟨r.pk, .next sequence⟩).toList ++ values) params
      c w ↔ Sql.Sets values params c w := by
  constructor
  · rintro ⟨a, ha, hcolumn, p, hp, hparam⟩
    rcases List.mem_append.mp ha with ha | ha
    · obtain ⟨sequence, _, rfl⟩ := Option.map_eq_some_iff.mp (Option.mem_toList.mp ha)
      exact absurd hp List.not_mem_nil
    · exact ⟨a, ha, hcolumn, p, hp, hparam⟩
  · rintro ⟨a, ha, h⟩
    exact ⟨a, List.mem_append_right _ ha, h⟩

/-- A column gets a value from an insert if it is changed to something, and then it gets what is
    bound first under its name. -/
theorem inserted_sets {w : Param} :
    Sql.Sets (r.insertedValues payload)
        (bindAll [] (Change.insertionUses r.toTableView r.autoincrement payload)).params c w ↔
      (∃ e ∈ Change.changed payload r.generatedKey (r.fields.filter Field.isColumn),
        e.1.name = c ∧ e.2.isNull = false) ∧
        ((Change.markedUses "i_" Filter.columnParam (Change.changed payload r.generatedKey
          (r.fields.filter Field.isColumn))).find? (·.name = "i_" ++ c)).map (·.value) =
            some w := by
  have hplaced (f : Field) (v : Json) : (Change.insertedAt
      (bindAll [] (Change.insertionUses r.toTableView r.autoincrement payload)) f v).placeholders =
        (useOf (.payload f.name) ("i_" ++ f.name) (Filter.columnParam f) v).map
          (·.place (bindAll [] (Change.insertionUses r.toTableView r.autoincrement payload))) := by
    unfold Change.insertedAt useOf
    split_ifs <;> rfl
  unfold insertedValues Change.insertionsAt
  rw [insertedValues_sets]
  exact @Change.sets_changed "i_" Filter.columnParam _ _ [] hplaced c w

/-- A column that no sequence is for gets what the payload has for it, bound for the first stored
    field of its name. -/
theorem inserted_sets_value (hkey : r.generatedKey ≠ some c) {v : Json}
    (hv : payload.find? c = some v) (hnull : v.isNull = false) {f : Field}
    (hf : (r.fields.filter Field.isColumn).find? (·.name = c) = some f) {w : Param} :
    Sql.Sets (r.insertedValues payload)
        (bindAll [] (Change.insertionUses r.toTableView r.autoincrement payload)).params c w ↔
      w = (Filter.columnParam f v).1 := by
  have hname : f.name = c := by simpa using List.find?_some hf
  subst hname
  have hchanged : (f, v) ∈
      Change.changed payload r.generatedKey (r.fields.filter Field.isColumn) :=
    Change.mem_changed_iff.mpr ⟨List.mem_of_find?_eq_some hf, hkey, hv⟩
  rw [inserted_sets, Change.find?_markedUses_changed "i_" Filter.columnParam hv hnull hkey, hf]
  refine (and_iff_right ⟨_, hchanged, rfl, hnull⟩).trans ?_
  rw [Option.map_some, Option.map_some, Option.some.injEq, eq_comm]

/-- A column that a sequence is for gets no value. -/
theorem generated_sets (hkey : r.generatedKey = some c) {w : Param} :
    ¬ Sql.Sets (r.insertedValues payload)
      (bindAll [] (Change.insertionUses r.toTableView r.autoincrement payload)).params c w := by
  rw [inserted_sets]
  rintro ⟨⟨e, he, rfl, _⟩, _⟩
  obtain ⟨_, hskip, _⟩ := Change.mem_changed_iff.mp he
  exact hskip hkey

/-- A column gets an object from an insert exactly if the payload has the object for it. -/
theorem insert_sets_iff (hc : c ∈ r.columnNames) (hkey : r.generatedKey ≠ some c) {es : Object} :
    Sql.Sets (r.insertedValues payload)
        (bindAll [] (Change.insertionUses r.toTableView r.autoincrement payload)).params c
        (.json (.obj es)) ↔
      payload.find? c = some (.obj es) := by
  constructor
  · rw [inserted_sets]
    rintro ⟨_, hfirst⟩
    obtain ⟨u, hu, hvalue⟩ := Option.map_eq_some_iff.mp hfirst
    obtain ⟨f, v, hv, hparam⟩ := Change.find?_markedUses hu
    rw [hv, Change.columnParam_object (hparam.symm.trans hvalue)]
  · intro hv
    obtain ⟨f, hfound⟩ := Field.exists_named hc
    exact (inserted_sets_value hkey hv rfl hfound).mpr rfl

end Resource

end RowServe
