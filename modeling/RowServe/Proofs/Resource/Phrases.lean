import RowServe.Proofs.Resource.Own
import RowServe.Proofs.Sql.Tokens

/-!
# What the parts of a statement say

The quoted names and the placeholders in conditions, in values that are written and in what
is shown. Each part says its own tokens and no others, as long as its placeholders are cast
to types: names and literals are quoted, so nothing in them is read.

Results:

* `spells_condition`, `spells_allText`: what conditions say.
* `spells_setList`, `spells_columnList`, `spells_valueList`: what is said of written values.
* `spells_projection`: what is said of a projection.
* `spells_join`: what a join says.
-/

namespace RowServe.Sql

/-- The placeholder is cast to nothing, or to a type. -/
def Placeholder.Typed (IsType : String → Prop) (p : Placeholder) : Prop :=
  ∀ t, p.cast = some t → IsType t

variable {IsType : String → Prop}

/-! ## Conditions -/

/-- The tokens of an operand: its table and its column. -/
def Operand.tokens : Operand → List Token
  | column t c | key t c _ => [.name t, .name c]

/-- The tokens of a comparison. -/
def Comparison.tokens : Comparison → List Token
  | isNull x => x.tokens
  | equals x p => x.tokens ++ [.place p.position]

/-- The tokens of a condition. -/
def Condition.tokens : Condition → List Token
  | compare c => c.tokens
  | isJsonNull x => x.tokens ++ x.tokens
  | contains x p | hasText x p => x.tokens ++ [.place p.position]
  | among x table column cs =>
    x.tokens ++ [.name table, .name column] ++ [.name table] ++ cs.flatMap Comparison.tokens

theorem spells_operand (x : Operand) : Spells IsType x.render x.tokens := by
  cases x with
  | column t c => exact spells_qualified t c
  | key t c k =>
    have harrow := (@spells_qualified IsType t c).word (w := "->") (by decide)
    simpa [Operand.render, Operand.tokens] using harrow.spells_append (spells_literal k)

theorem spells_target (x : Operand) : Spells IsType x.target x.tokens := by
  cases x with
  | column t c => exact spells_qualified t c
  | key t c k =>
    have hopen : Closed IsType "(" [] := Bare.closed (by decide)
    exact ((hopen.spells_append (spells_operand (.key t c k))).word (by decide)).spells

theorem spells_comparison {c : Comparison} (h : ∀ e ∈ c.placeholders, e.2.Typed IsType) :
    Spells IsType c.render c.tokens := by
  cases c with
  | isNull x => exact ((spells_target x).word (by decide)).spells
  | equals x p =>
    exact ((spells_target x).word (by decide)).spells_append
      (spells_placeholder (h _ List.mem_cons_self))

theorem spells_condition {c : Condition} (h : ∀ e ∈ c.placeholders, e.2.Typed IsType) :
    Spells IsType c.render c.tokens := by
  cases c with
  | compare c => exact spells_comparison h
  | isJsonNull x =>
    have hopen : Closed IsType "(" [] := Bare.closed (by decide)
    have hfirst := (hopen.spells_append (spells_target x)).word (w := " IS NULL OR ") (by decide)
    have hnull : Closed IsType " = 'null'::jsonb)" [] := by
      have htext : " = 'null'::jsonb)" = " = " ++ literal "null" ++ "::jsonb)" := by decide
      rw [htext]
      exact closed_literal (by decide) (by decide) "null"
    have hsecond := (hfirst.spells_append (spells_target x)).append hnull (by decide)
    rw [List.append_nil] at hsecond
    exact hsecond.spells
  | contains x p =>
    exact ((spells_target x).word (by decide)).spells_append
      (spells_placeholder (h _ List.mem_cons_self))
  | hasText x p =>
    exact ((spells_target x).word (by decide)).spells_append
      (spells_placeholder (h _ List.mem_cons_self))
  | among x table column cs =>
    have hcs : ∀ c ∈ cs, Spells IsType c.render c.tokens := fun c hc =>
      spells_comparison fun e he => h e (List.mem_flatMap.mpr ⟨c, hc, he⟩)
    have hselect := ((spells_target x).word (w := " IN (SELECT ") (by decide)).spells_append
      (@spells_qualified IsType table column)
    have hfrom := (hselect.word (w := " FROM ") (by decide)).spells_append (spells_quoted table)
    have hwhere := (hfrom.word (w := " WHERE ") (by decide)).spells_append
      (Spells.intercalate (w := " AND ") (by decide) hcs)
    exact (hwhere.word (by decide)).spells

theorem spells_allText {cs : List Condition}
    (h : ∀ c ∈ cs, ∀ e ∈ c.placeholders, e.2.Typed IsType) :
    Spells IsType (allText cs) (cs.flatMap Condition.tokens) := by
  unfold allText
  split_ifs with hnone
  · rw [List.isEmpty_iff.mp hnone]
    exact Bare.spells (by decide)
  · exact Spells.intercalate (by decide) fun c hc => spells_condition (h c hc)

/-! ## Values that are written -/

/-- The tokens of a value that a column gets. -/
def Assigned.tokens : Assigned → List Token
  | null | next _ => []
  | bound p => [.place p.position]
  | merged current p | extended current p => current.tokens ++ [.place p.position]

/-- The tokens of an assignment. -/
def Assignment.tokens (a : Assignment) : List Token := .name a.column :: a.value.tokens

theorem spells_assigned {v : Assigned} (h : ∀ p ∈ v.placeholders, p.Typed IsType) :
    Spells IsType v.render v.tokens := by
  cases v with
  | null => exact Bare.spells (by decide)
  | bound p => exact spells_placeholder (h p List.mem_cons_self)
  | merged current p =>
    have hmerge : Closed IsType "jsonb_merge_deep(" [] := Bare.closed (by decide)
    have hcurrent := (hmerge.spells_append (spells_operand current)).word (w := ", ") (by decide)
    have hvalue := hcurrent.spells_append (spells_placeholder (h p List.mem_cons_self))
    exact (hvalue.word (w := ")") (by decide)).spells
  | extended current p =>
    have hcoalesce : Closed IsType "COALESCE(" [] := Bare.closed (by decide)
    have hempty : Closed IsType ", '\x7b\x7d'::jsonb) || " [] := by
      have htext : ", '\x7b\x7d'::jsonb) || " = ", " ++ literal "\x7b\x7d" ++ "::jsonb) || " := by
        decide
      rw [htext]
      exact closed_literal (by decide) (by decide) "\x7b\x7d"
    have hcurrent := (hcoalesce.spells_append (spells_operand current)).append hempty (by decide)
    rw [List.append_nil] at hcurrent
    exact hcurrent.spells_append (spells_placeholder (h p List.mem_cons_self))
  | next sequence =>
    have hnext : Closed IsType "nextval(" [] := Bare.closed (by decide)
    exact ((hnext.spells_append (spells_literal sequence)).word (by decide)).spells

theorem spells_setList {as : List Assignment}
    (h : ∀ a ∈ as, ∀ p ∈ a.value.placeholders, p.Typed IsType) :
    Spells IsType (setList as) (as.flatMap Assignment.tokens) :=
  Spells.intercalate (by decide) fun a ha =>
    ((spells_quoted a.column).word (by decide)).spells_append (spells_assigned (h a ha))

theorem spells_columnList (as : List Assignment) :
    Spells IsType (columnList as) (as.flatMap fun a => [.name a.column]) :=
  Spells.intercalate (by decide) fun a _ => spells_quoted a.column

theorem spells_valueList {as : List Assignment}
    (h : ∀ a ∈ as, ∀ p ∈ a.value.placeholders, p.Typed IsType) :
    Spells IsType (valueList as) (as.flatMap fun a => a.value.tokens) :=
  Spells.intercalate (by decide) fun a ha => spells_assigned (h a ha)

/-! ## Values that are shown -/

/-- The tokens of what is shown. -/
def Shown.tokens : Shown → List Token
  | stored x => x.tokens
  | joined source key columns =>
    [.name source, .name key] ++ columns.flatMap fun c => [.name source, .name c]

theorem spells_buildObject {α : Type} {k f : α → String} {g : α → List Token} {l : List α}
    (h : ∀ a ∈ l, Spells IsType (f a) (g a)) :
    Spells IsType (buildObject (l.map fun a => (k a, f a))) (l.flatMap g) := by
  have hopen : Closed IsType "json_build_object(" [] := Bare.closed (by decide)
  have hentries : Spells IsType
      (", ".intercalate (l.map fun a => literal (k a) ++ ", " ++ f a)) (l.flatMap g) :=
    Spells.intercalate (by decide) fun a ha =>
      ((spells_literal (k a)).word (by decide)).spells_append (h a ha)
  unfold buildObject
  rw [List.map_map]
  exact ((hopen.spells_append hentries).word (by decide)).spells

theorem spells_shown (x : Shown) : Spells IsType x.render x.tokens := by
  cases x with
  | stored x => exact spells_operand x
  | joined source key columns =>
    have hcase : Closed IsType "CASE WHEN " [] := Bare.closed (by decide)
    have hkey := (hcase.spells_append (spells_qualified source key)).word
      (w := " IS NULL THEN NULL ELSE ") (by decide)
    have hcolumns := spells_buildObject (k := fun c => c) (l := columns)
      fun c _ => @spells_qualified IsType source c
    exact ((hkey.spells_append hcolumns).word (by decide)).spells

theorem spells_projection (shown : List (String × Shown)) :
    Spells IsType (projection shown) (shown.flatMap fun e => e.2.tokens) :=
  spells_buildObject fun e _ => spells_shown e.2

end RowServe.Sql

namespace RowServe

open Sql (Closed Spells Token spells_quoted spells_qualified)

variable {IsType : String → Prop}

/-- The tokens of a join. -/
def Join.tokens (j : Join) : List Token :=
  [.name j.table, .name j.aliasName] ++ [.name j.aliasName, .name j.column] ++
    [.name j.ownTable, .name j.field]

theorem spells_join (j : Join) : Spells IsType j.sql j.tokens := by
  have hleft : Closed IsType "LEFT JOIN " [] := Sql.Bare.closed (by decide)
  have htable := (hleft.spells_append (spells_quoted j.table)).word (w := " AS ") (by decide)
  have halias := (htable.spells_append (spells_quoted j.aliasName)).word (w := " ON ") (by decide)
  have hcolumn := (halias.spells_append (spells_qualified j.aliasName j.column)).word (w := " = ")
    (by decide)
  exact hcolumn.spells_append (spells_qualified j.ownTable j.field)

theorem spells_joinsSql (view : TableView) (active : List String) :
    Spells IsType (view.joinsSql active)
      ((view.joins.filter fun j => active.contains j.field).flatMap Join.tokens) :=
  Spells.intercalate (by decide) fun j _ => spells_join j

theorem spells_orderBy (view : TableView) (names : List String) :
    Spells IsType (Selection.orderBy view names)
      (((names.filterMap view.field?).filterMap view.operand?).flatMap Sql.Operand.tokens) :=
  Spells.intercalate (by decide) fun x _ => Sql.spells_operand x

end RowServe
