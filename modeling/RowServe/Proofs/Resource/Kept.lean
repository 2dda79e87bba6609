import RowServe.Proofs.Resource.FilterKeys
import RowServe.Proofs.Resource.Uses

/-!
# Conditions for the keys of a filter

Which keys of a filter have a condition in a statement. A key is silent if its field is
stored nowhere, or if it is a link that is asked for by an object and the object is empty
or there is no join to read it through. Every other key has a condition on its own field,
and the condition that always holds is written exactly if all keys are silent.

Results:

* `allText_eq_iff`: only no conditions at all are written as the condition that always holds.
* `condition_iff`: a key has a condition exactly if it is not silent.
* `vacuous_iff`: when a statement has no conditions.
-/

namespace RowServe

/-! ## The text of conditions -/

namespace Sql

/-- The text starts with the character. -/
def Starts (c : Char) (s : String) : Prop := s.toList.head? = some c

theorem Starts.append {c : Char} {s : String} (h : Starts c s) (t : String) :
    Starts c (s ++ t) := by
  unfold Starts at h ⊢
  rw [String.toList_append, List.head?_append, h]
  rfl

theorem starts_quoted (name : String) : Starts '"' (quoted name) := by
  unfold Starts quoted enclosed
  rw [String.toList_ofList]
  rfl

theorem starts_qualified (table column : String) : Starts '"' (qualified table column) :=
  ((starts_quoted table).append ".").append _

/-- Conditions start with a quoted name or with a parenthesis. -/
def Opens (s : String) : Prop := Starts '"' s ∨ Starts '(' s

theorem Opens.append {s : String} (h : Opens s) (t : String) : Opens (s ++ t) :=
  h.imp (·.append t) (·.append t)

theorem opens_target (x : Operand) : Opens x.target := by
  cases x with
  | column t c => exact .inl (starts_qualified t c)
  | key t c k =>
    have hopen : Starts '(' "(" := rfl
    exact .inr ((hopen.append _).append ")")

theorem opens_comparison (c : Comparison) : Opens c.render := by
  cases c with
  | isNull x => exact (opens_target x).append " IS NULL"
  | equals x p => exact ((opens_target x).append " = ").append p.render

theorem opens_condition (c : Condition) : Opens c.render := by
  cases c with
  | compare c => exact opens_comparison c
  | isJsonNull x =>
    have hopen : Starts '(' "(" := rfl
    exact .inr ((((hopen.append _).append _).append _).append _)
  | contains x p => exact ((opens_target x).append " @> ").append p.render
  | hasText x p => exact ((opens_target x).append " ? ").append p.render
  | among x table column cs =>
    have hin : Opens (x.target ++ " IN (SELECT " ++ qualified table column ++ " FROM ") :=
      (((opens_target x).append _).append _).append _
    exact (((hin.append _).append _).append _).append _

/-- Only no conditions at all are written as the condition that always holds. -/
theorem allText_eq_iff (cs : List Condition) : allText cs = "1=1" ↔ cs = [] := by
  constructor
  · intro h
    cases cs with
    | nil => rfl
    | cons c cs =>
      have hopens : Opens (allText (c :: cs)) := by
        unfold allText
        rw [if_neg (by simp), List.map_cons]
        cases cs with
        | nil => exact String.intercalate_singleton ▸ opens_condition c
        | cons d cs =>
          rw [List.map_cons, String.intercalate_cons_cons]
          exact ((opens_condition c).append _).append _
      rw [h] at hopens
      have hquote : ¬ Starts '"' "1=1" := by
        unfold Starts
        decide
      have hopen : ¬ Starts '(' "1=1" := by
        unfold Starts
        decide
      exact absurd hopens (not_or_intro hquote hopen)
  · rintro rfl
    rfl

end Sql

/-! ## Silent keys -/

/-- A value of the field has no condition. -/
def TableView.SilentField (view : TableView) (f : Field) (v : Json) : Prop :=
  f.storage = .virtual ∨
    (f.storage = .column ∧ f.isForeignKey = true ∧
      ∃ entries, v = .obj entries ∧ (entries = [] ∨ view.join? f.name = none))

/-- No field of the name has a condition for the value. -/
def TableView.Silent (view : TableView) (name : String) (v : Json) : Prop :=
  ∀ f ∈ view.fields, f.name = name → view.SilentField f v

/-- What a condition is about. -/
def Sql.Condition.subject : Sql.Condition → Sql.Operand
  | .compare (.isNull x) => x
  | .compare (.equals x _) => x
  | .isJsonNull x => x
  | .contains x _ => x
  | .hasText x _ => x
  | .among x _ _ _ => x

/-- The condition reads a field of the name, or a column of the row that it links to. -/
structure Conjunct.About (view : TableView) (name : String) (c : Conjunct) : Prop where
  field : c.field = name
  reads : ∃ f ∈ view.fields, f.name = name ∧
    (view.operand? f = some c.condition.subject ∨
      ∃ j column, view.join? name = some j ∧ c.condition.subject = .column j.aliasName column)

namespace Filter

open Sql (Binds)

theorem silentField_iff (view : TableView) (f : Field) (v : Json) :
    view.SilentField f v ↔
      reading view f v = .none ∨ ∃ x j, reading view f v = .linked x j [] := by
  unfold TableView.SilentField reading TableView.operand? Field.isForeignKey
  generalize f.storage = storage
  generalize f.kind = kind
  cases storage with
  | virtual => simp
  | extension column => simp
  | column =>
    cases kind with
    | scalar => simp
    | manyToMany table column => simp
    | nestedExtension child => cases v <;> simp
    | foreignKey table column =>
      cases v with
      | obj entries =>
        cases hj : view.join? f.name with
        | none => simp
        | some j => simp
      | _ => simp

theorem reading_operand {view : TableView} {f : Field} {v : Json} {x : Sql.Operand}
    (h : reading view f v = .document x ∨ (∃ part, reading view f v = .contains x part) ∨
      (∃ j entries, reading view f v = .linked x j entries) ∨ reading view f v = .flat x) :
    view.operand? f = some x := by
  unfold reading at h
  cases hx : view.operand? f with
  | none =>
    rw [hx] at h
    simp at h
  | some y =>
    rw [hx] at h
    dsimp only at h
    congr 1
    split at h
    · simpa using h
    · simpa using h
    · simpa using h
    · cases hj : view.join? f.name with
      | none =>
        rw [hj] at h
        simp at h
      | some j =>
        rw [hj] at h
        simpa using h
    · simpa using h

theorem entryAt_nil_iff (b : Binds) (view : TableView) (mode : WhereMode) (f : Field)
    (v : Json) : entryAt b view mode f v = [] ↔ view.SilentField f v := by
  rw [silentField_iff]
  unfold entryAt
  cases reading view f v with
  | none => simp
  | document x => simp
  | contains x part => simp [containsAt]
  | linked x j entries => cases mode <;> simp [linkedAt]
  | flat x =>
    unfold flatAt
    split_ifs <;> simp

theorem documentConditionAt_subject (b : Binds) (f : Field) (x : Sql.Operand) (v : Json) :
    (documentConditionAt b f x v).subject = x := by
  unfold documentConditionAt
  dsimp only
  split_ifs <;> rfl

theorem flatAt_about {b : Binds} {f : Field} {x : Sql.Operand} {v : Json} {c : Conjunct}
    (hc : c ∈ flatAt b f x v) : c.field = f.name ∧ c.condition.subject = x := by
  unfold flatAt at hc
  split_ifs at hc
  · rw [List.mem_singleton.mp hc]
    exact ⟨rfl, rfl⟩
  · rw [List.mem_singleton.mp hc]
    exact ⟨rfl, rfl⟩

/-- Conditions on a linked row read its columns through the join, or the link itself. -/
theorem linkedAt_about {b : Binds} {j : Join} {x : Sql.Operand} {mode : WhereMode}
    {entries : Object} {c : Conjunct} (hc : c ∈ linkedAt b j x mode entries) :
    c.field = j.field ∧
      (c.condition.subject = x ∨ ∃ column, c.condition.subject = .column j.aliasName column) := by
  cases mode with
  | select =>
    obtain ⟨e, _, rfl⟩ := List.mem_map.mp hc
    refine ⟨rfl, .inr ⟨e.1, ?_⟩⟩
    unfold comparisonAt
    dsimp only
    split_ifs <;> rfl
  | mutate =>
    unfold linkedAt at hc
    dsimp only at hc
    split_ifs at hc
    · exact absurd hc List.not_mem_nil
    · rw [List.mem_singleton.mp hc]
      exact ⟨rfl, .inl rfl⟩

/-- The conditions of an entry are about its field. -/
theorem entryAt_about {b : Binds} {view : TableView} {mode : WhereMode} {f : Field} {v : Json}
    (hf : f ∈ view.fields) {c : Conjunct} (hc : c ∈ entryAt b view mode f v) :
    c.About view f.name := by
  unfold entryAt at hc
  cases hread : reading view f v with
  | none =>
    rw [hread] at hc
    exact absurd hc List.not_mem_nil
  | document x =>
    rw [hread] at hc
    have hx := reading_operand (.inl hread)
    rw [List.mem_singleton.mp hc]
    exact ⟨rfl, f, hf, rfl, .inl (by rw [hx, documentConditionAt_subject])⟩
  | contains x part =>
    rw [hread] at hc
    have hx := reading_operand (.inr (.inl ⟨part, hread⟩))
    rw [List.mem_singleton.mp hc]
    exact ⟨rfl, f, hf, rfl, .inl hx⟩
  | linked x j entries =>
    rw [hread] at hc
    have hx := reading_operand (.inr (.inr (.inl ⟨j, entries, hread⟩)))
    have hjoin := (object_of_reading hread).2
    obtain ⟨hfield, hsubject⟩ := linkedAt_about hc
    refine ⟨hfield.trans (join?_field hjoin), f, hf, rfl, ?_⟩
    rcases hsubject with hsubject | ⟨column, hsubject⟩
    · exact .inl (by rw [hx, hsubject])
    · exact .inr ⟨j, column, hjoin, hsubject⟩
  | flat x =>
    rw [hread] at hc
    have hx := reading_operand (.inr (.inr (.inr hread)))
    obtain ⟨hfield, hsubject⟩ := flatAt_about hc
    exact ⟨hfield, f, hf, rfl, .inl (by rw [hx, hsubject])⟩

/-! ## Whole filters -/

variable {view : TableView} {payload : Object}

theorem mem_conjuncts (view : TableView) (payload : Object) (mode : WhereMode) (b : Binds)
    (c : Conjunct) :
    c ∈ (WhereClause.ofFilter view payload mode b).1.conjuncts ↔
      ∃ f ∈ view.fields, ∃ v, payload.find? f.name = some v ∧
        c ∈ entryAt (bindAll b (filterUses view payload)) view mode f v := by
  rw [ofFilter_eq view payload mode b [], List.append_nil]
  unfold conjunctsAt
  rw [List.mem_flatMap]
  constructor
  · rintro ⟨e, he, hc⟩
    obtain ⟨hf, hv⟩ := mem_entriesOf.mp he
    exact ⟨e.1, hf, e.2, hv, hc⟩
  · rintro ⟨f, hf, v, hv, hc⟩
    exact ⟨(f, v), mem_entriesOf.mpr ⟨hf, hv⟩, hc⟩

/-- A key has a condition on its own field exactly if it is not silent. -/
theorem condition_iff {name : String} {v : Json} (hv : payload.find? name = some v)
    (mode : WhereMode) (b : Binds) :
    (∃ c ∈ (WhereClause.ofFilter view payload mode b).1.conjuncts, c.About view name) ↔
      ¬ view.Silent name v := by
  constructor
  · rintro ⟨c, hc, habout⟩ hsilent
    obtain ⟨f, hf, w, hw, hc⟩ := (mem_conjuncts view payload mode b c).mp hc
    have hname : f.name = name := (entryAt_about hf hc).field.symm.trans habout.field
    rw [hname, hv] at hw
    obtain rfl := Option.some.inj hw
    rw [(entryAt_nil_iff _ view mode f v).mpr (hsilent f hf hname)] at hc
    exact absurd hc List.not_mem_nil
  · intro hloud
    unfold TableView.Silent at hloud
    push Not at hloud
    obtain ⟨f, hf, rfl, hfield⟩ := hloud
    rw [← entryAt_nil_iff (bindAll b (filterUses view payload)) view mode f v] at hfield
    obtain ⟨c, hc⟩ := List.exists_mem_of_ne_nil _ hfield
    exact ⟨c, (mem_conjuncts view payload mode b c).mpr ⟨f, hf, v, hv, hc⟩, entryAt_about hf hc⟩

/-- A statement has the condition that always holds exactly if all keys are silent. -/
theorem vacuous_iff (view : TableView) (payload : Object) (mode : WhereMode) (b : Binds) :
    (WhereClause.ofFilter view payload mode b).1.sql = "1=1" ↔
      ∀ name v, payload.find? name = some v → view.Silent name v := by
  unfold WhereClause.sql
  rw [Sql.allText_eq_iff, List.map_eq_nil_iff, List.eq_nil_iff_forall_not_mem]
  simp only [mem_conjuncts]
  constructor
  · intro hnone name v hv f hf hname
    rw [← entryAt_nil_iff (bindAll b (filterUses view payload)) view mode f v,
      List.eq_nil_iff_forall_not_mem]
    intro c hc
    exact hnone c ⟨f, hf, v, hname ▸ hv, hc⟩
  · rintro hsilent c ⟨f, hf, v, hv, hc⟩
    rw [(entryAt_nil_iff _ view mode f v).mpr (hsilent f.name v hv f hf rfl)] at hc
    exact absurd hc List.not_mem_nil

end Filter

end RowServe
