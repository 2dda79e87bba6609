import RowServe.Resource.Basic
import RowServe.Text.NameList

/-!
# Selections

Which fields of a row are shown: all readable ones, or those that a request names. A
name such as `producer.name` narrows a linked row to some of its fields.

Results:

* `default_names`: the default selection shows readable fields only.
-/

namespace RowServe

/-- A field that is shown, narrowed to some fields of its linked row or not. -/
structure Selected where
  name : String
  sub : Option (List String)
  deriving DecidableEq, Repr

namespace Selection

/-- Every readable field but the column that a nested extension lives in. -/
def default (view : TableView) (hidden : Option String) : List Selected :=
  (view.fields.filter fun f => f.isReadable && hidden ≠ some f.name).map fun f => ⟨f.name, none⟩

/-- The join that shows a field, if it is a foreign key with one. -/
def joinOf? (view : TableView) (f : Field) : Option Join :=
  if f.isForeignKey && f.isColumn then view.join? f.name else none

/-- What is shown for one selected field. -/
def shown? (view : TableView) (list : Bool) (s : Selected) : Option (String × Sql.Shown) :=
  match view.field? s.name with
  | none => none
  | some f =>
    match joinOf? view f with
    | some j =>
      let columns := s.sub.getD (if list then j.listFields else j.getFields)
      some (s.name, .joined j.aliasName j.column columns)
    | none => (view.operand? f).map fun x => (s.name, .stored x)

/-- What is shown for a selection. -/
def shown (view : TableView) (selection : List Selected) (list : Bool) :
    List (String × Sql.Shown) :=
  selection.filterMap (shown? view list)

/-- The fields whose joins a selection needs. -/
def joins (view : TableView) (selection : List Selected) : List String :=
  selection.filterMap fun s =>
    ((view.field? s.name).bind (joinOf? view)).map (·.field)

/-- The expression of a selection. -/
def sql (view : TableView) (selection : List Selected) (list : Bool) : String :=
  Sql.projection (shown view selection list)

/-- The expressions that rows are ordered by. -/
def orderBy (view : TableView) (names : List String) : String :=
  ", ".intercalate (((names.filterMap view.field?).filterMap view.operand?).map Sql.Operand.render)

theorem default_names {view : TableView} {hidden : Option String} {s : Selected}
    (h : s ∈ default view hidden) : ∃ f ∈ view.fields, f.isReadable = true ∧ f.name = s.name := by
  obtain ⟨f, hf, rfl⟩ := List.mem_map.mp h
  obtain ⟨hm, hp⟩ := List.mem_filter.mp hf
  simp only [Bool.and_eq_true] at hp
  exact ⟨f, hm, hp.1, rfl⟩

end Selection

end RowServe
