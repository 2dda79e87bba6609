import Mathlib.Logic.Function.Basic
import RowServe.Resource.Filter

/-!
# What conditions mean

Which rows of a table pass the conditions of a filter, in a database with nulls. Conditions
are true, false or unknown, and a row passes if all of them are true. A read extends the row
by the rows of its joins, or by a row of nulls where there is none; a write looks for a value
among those that a subquery gives. What a condition on the row itself says is left open.

Results:

* `all_eq_true`, `any_eq_true`: when a conjunction and a disjunction are true.
* `mem_scopes`: how joins extend a row.
-/

namespace RowServe

open Sql (Comparison Condition Operand Placeholder)

/-! ## Truth values -/

/-- A truth value; `none` is unknown. -/
abbrev Truth := Option Bool

namespace Truth

/-- Both: false as soon as one is false. -/
def and : Truth → Truth → Truth
  | some false, _ | _, some false => some false
  | some true, some true => some true
  | none, _ | _, none => none

/-- One of both: true as soon as one is true. -/
def or : Truth → Truth → Truth
  | some true, _ | _, some true => some true
  | some false, some false => some false
  | none, _ | _, none => none

/-- All of some. -/
def all (ts : List Truth) : Truth := ts.foldr and (some true)

/-- One of some. -/
def any (ts : List Truth) : Truth := ts.foldr or (some false)

theorem all_eq_true {ts : List Truth} : all ts = some true ↔ ∀ t ∈ ts, t = some true := by
  induction ts with
  | nil => simp [all]
  | cons t ts ih =>
    have hcons : all (t :: ts) = and t (all ts) := rfl
    rw [hcons, List.forall_mem_cons, ← ih]
    rcases t with _ | (_ | _) <;> rcases all ts with _ | (_ | _) <;> simp [and]

theorem any_eq_true {ts : List Truth} : any ts = some true ↔ ∃ t ∈ ts, t = some true := by
  induction ts with
  | nil => simp [any]
  | cons t ts ih =>
    have hcons : any (t :: ts) = or t (any ts) := rfl
    simp only [hcons, List.mem_cons, exists_eq_or_imp, ← ih]
    rcases t with _ | (_ | _) <;> rcases any ts with _ | (_ | _) <;> simp [or]

end Truth

/-! ## Databases -/

/-- A row by the names of its columns; a column without a value is null. -/
abbrev Row (V : Type) := String → Option V

/-- The row of nulls. -/
def Row.nulls {V : Type} : Row V := fun _ => none

/-- The rows that the names of tables stand for within a statement. -/
abbrev Scope (V : Type) := String → Row V

/-- The joins of some fields. -/
def TableView.activeJoins (view : TableView) (active : List String) : List Join :=
  view.joins.filter fun j => active.contains j.field

theorem TableView.mem_activeJoins {view : TableView} {active : List String} {j : Join} :
    j ∈ view.activeJoins active ↔ j ∈ view.joins ∧ j.field ∈ active := by
  simp [activeJoins]

/-- Tables with their rows, and what values and parameters are. -/
structure Database (V : Type) where
  rows : String → List (Row V)
  /-- The value of a parameter, cast as its placeholder says. -/
  param : Placeholder → Option V
  /-- Are two values equal? -/
  same : V → V → Bool
  same_comm : ∀ a b, same a b = same b a
  /-- The value under a key of a JSON value. -/
  inside : Option V → String → Option V
  /-- What a condition on the row itself says of it. -/
  own : Condition → Row V → Truth

namespace Database

variable {V : Type} (db : Database V)

/-- Are two values equal? With null it is unknown. -/
def equal : Option V → Option V → Truth
  | some a, some b => some (db.same a b)
  | none, _ | _, none => none

/-- The value of an operand. -/
def value (s : Scope V) : Operand → Option V
  | .column table column => s table column
  | .key table column key => db.inside (s table column) key

/-- The truth of a comparison. -/
def compare (s : Scope V) : Comparison → Truth
  | .isNull x => some (db.value s x).isNone
  | .equals x p => db.equal (db.value s x) (db.param p)

/-- The rows of a table that pass all comparisons. -/
def passing (table : String) (cs : List Comparison) : List (Row V) :=
  (db.rows table).filter fun u =>
    Truth.all (cs.map (db.compare (Function.update (fun _ => Row.nulls) table u))) = some true

/-- The truth of a condition for a row. Conditions through a join and conditions with a
    subquery look at other tables; all others are left open. -/
def truth (row : Row V) (s : Scope V) (c : Conjunct) : Truth :=
  match c.condition, c.viaJoin with
  | .compare comparison, true => db.compare s comparison
  | .among x table column cs, _ =>
    Truth.any ((db.passing table cs).map fun u => db.equal (db.value s x) (u column))
  | condition, _ => db.own condition row

/-! ## Reads and writes -/

/-- The rows that a row refers to. -/
def partners (j : Join) (own : Row V) : List (Row V) :=
  (db.rows j.table).filter fun u => db.equal (u j.column) (own j.field) = some true

/-- What a join puts beside a row: the rows it refers to, or a row of nulls. -/
def joined (j : Join) (own : Row V) : List (Row V) :=
  if (db.partners j own).isEmpty then [Row.nulls] else db.partners j own

/-- A row of a table alone. -/
def alone (table : String) (row : Row V) : Scope V :=
  Function.update (fun _ => Row.nulls) table row

/-- All the ways in which joins extend a row. -/
def scopes : List Join → Scope V → List (Scope V)
  | [], s => [s]
  | j :: js, s =>
    (db.joined j (s j.ownTable)).flatMap fun u => scopes js (Function.update s j.aliasName u)

/-- A statement that reads shows the row: some extension of it passes all conditions. -/
def Finds (view : TableView) (active : List String) (w : WhereClause) (row : Row V) : Prop :=
  ∃ s ∈ db.scopes (view.activeJoins active) (alone view.table row),
    Truth.all (w.conjuncts.map (db.truth row s)) = some true

/-- A statement that writes touches the row: it passes all conditions. -/
def Touches (view : TableView) (w : WhereClause) (row : Row V) : Prop :=
  Truth.all (w.conjuncts.map (db.truth row (alone view.table row))) = some true

variable {db}

theorem equal_comm (a b : Option V) : db.equal a b = db.equal b a := by
  cases a <;> cases b <;> simp [equal, db.same_comm]

theorem joined_ne_nil (db : Database V) (j : Join) (own : Row V) : db.joined j own ≠ [] := by
  unfold joined
  cases h : db.partners j own with
  | nil => simp
  | cons v vs => simp

/-- A row beside another one is a row that it refers to, or the row of nulls. -/
theorem mem_joined {j : Join} {own u : Row V} :
    u ∈ db.joined j own ↔
      u ∈ db.partners j own ∨ (db.partners j own = [] ∧ u = Row.nulls) := by
  unfold joined
  cases h : db.partners j own with
  | nil => simp
  | cons v vs => simp

/-- Joins with names of their own extend a row independently of each other: by a row for
    each of them, and in every such way. -/
theorem mem_scopes (db : Database V) {table : String} {row : Row V} {js : List Join}
    {s : Scope V} (hs : s table = row) (hown : ∀ j ∈ js, j.ownTable = table)
    (hapart : ∀ j ∈ js, j.aliasName ≠ table) (hnames : (js.map Join.aliasName).Nodup) :
    (∀ s' ∈ db.scopes js s, (∀ j ∈ js, s' j.aliasName ∈ db.joined j row) ∧
      ∀ name, name ∉ js.map Join.aliasName → s' name = s name) ∧
    ∀ pick : Join → Row V, (∀ j ∈ js, pick j ∈ db.joined j row) →
      ∃ s' ∈ db.scopes js s, ∀ j ∈ js, s' j.aliasName = pick j := by
  induction js generalizing s with
  | nil => simp [scopes]
  | cons j js ih =>
    obtain ⟨hj, hown⟩ := List.forall_mem_cons.mp hown
    obtain ⟨hjapart, hapart⟩ := List.forall_mem_cons.mp hapart
    obtain ⟨hfresh, hnames⟩ := List.nodup_cons.mp hnames
    have hnext : ∀ u, Function.update s j.aliasName u table = row := fun u => by
      rw [Function.update_of_ne hjapart.symm, hs]
    have hhead : s j.ownTable = row := by rw [hj, hs]
    constructor
    · intro s' hs'
      obtain ⟨u, hu, hs'⟩ := List.mem_flatMap.mp hs'
      obtain ⟨hrows, hkeep⟩ := (ih (hnext u) hown hapart hnames).1 s' hs'
      refine ⟨List.forall_mem_cons.mpr ⟨?_, hrows⟩, fun name hname => ?_⟩
      · rw [hkeep _ hfresh, Function.update_self]
        exact hhead ▸ hu
      · obtain ⟨hne, hname⟩ := not_or.mp fun h => hname (List.mem_cons.mpr h)
        rw [hkeep name hname, Function.update_of_ne hne]
    · intro pick hpick
      obtain ⟨hu, hpick⟩ := List.forall_mem_cons.mp hpick
      obtain ⟨hkept, hall⟩ := ih (hnext (pick j)) hown hapart hnames
      obtain ⟨s', hs', hrows⟩ := hall pick hpick
      refine ⟨s', List.mem_flatMap.mpr ⟨pick j, hhead.symm ▸ hu, hs'⟩, ?_⟩
      refine List.forall_mem_cons.mpr ⟨?_, hrows⟩
      rw [(hkept s' hs').2 _ hfresh, Function.update_self]

end Database

end RowServe
