import Mathlib.Data.List.Basic
import RowServe.Proofs.Sql.Binds
import RowServe.Resource.Command

/-!
# What filters and changes bind

The conditions of a filter and the values of a change in closed form: first the values
that the entries bind, then the SQL parts with every placeholder read off the final list
of parameters. Both are plain functions of the entries, so nothing has to be threaded
through them.

Results:

* `ofFilter_eq`: generating conditions is listing their uses and placing them.
* `assignments_eq`, `insertions_eq`: the same for the values of an update and of an insert.
* `updateCommand_ok`, `insertCommand_ok`: the statements that write, with what they bind.
-/

namespace RowServe

/-- The part of a request that a value comes from. -/
inductive Origin where
  /-- An entry of a filter. -/
  | filter (field : String)
  /-- An entry of the object that a filter has for a linked row. -/
  | linked (field key : String)
  /-- An entry of a payload. -/
  | payload (field : String)
  deriving DecidableEq, Repr

/-- A value that a statement binds, with its name and the type it is cast to. -/
structure Use where
  origin : Origin
  name : String
  value : Sql.Param
  cast : Option String

namespace Use

/-- The parameter under its name. -/
def named (u : Use) : Sql.Binds.Named := (u.name, u.value)

/-- The place of the parameter. -/
def place (u : Use) (b : Sql.Binds) : Sql.Placeholder := b.place u.name u.cast

end Use

namespace Filter

open Sql (Binds Comparison Condition Operand Param Placeholder)

/-- The parameters with those of some uses added. -/
def bindAll (b : Binds) (uses : List Use) : Binds := b.addAll (uses.map Use.named)

@[simp] theorem bindAll_nil (b : Binds) : bindAll b [] = b := rfl

theorem bindAll_append (b : Binds) (us vs : List Use) :
    bindAll b (us ++ vs) = bindAll (bindAll b us) vs := by
  unfold bindAll
  rw [List.map_append, Binds.addAll_append]

/-- The use of a value as a parameter; null binds nothing. -/
def useOf (origin : Origin) (name : String) (param : Json → Param × Option String) (v : Json) :
    List Use :=
  if v.isNull then [] else [⟨origin, name, (param v).1, (param v).2⟩]

theorem isNull_of_ne {v : Json} (h : v ≠ .null) : v.isNull = false := by
  cases v <;> first | contradiction | rfl

/-- Binding a parameter is adding its use; what is bound behind it leaves it in place. -/
theorem bind_use (b : Binds) (u : Use) (later : List Use) :
    b.bind u.name u.value u.cast = (u.place (bindAll b (u :: later)), bindAll b [u]) := by
  have hplace : u.place (bindAll b (u :: later)) = (b.add u.named).place u.name u.cast :=
    Binds.place_add_self b u.named (later.map Use.named) u.cast
  rw [hplace, Binds.bind_eq]
  rfl

theorem bind_useOf {v : Json} (h : v ≠ .null) (b : Binds) (origin : Origin) (name : String)
    (param : Json → Param × Option String) (later : List Use) :
    b.bind name (param v).1 (param v).2 =
      ((bindAll b (useOf origin name param v ++ later)).place name (param v).2,
        bindAll b (useOf origin name param v)) := by
  unfold useOf
  rw [isNull_of_ne h]
  exact bind_use b ⟨origin, name, (param v).1, (param v).2⟩ later

/-! ## Readings -/

/-- How an entry of a filter is read: which condition it stands for, on which operand. -/
inductive Reading where
  /-- It stands for no condition: the field is stored nowhere, or there is no join for it. -/
  | none
  /-- A value inside a document. -/
  | document (x : Operand)
  /-- A document that has to hold all of `part`. -/
  | contains (x : Operand) (part : Json)
  /-- Columns of a linked row. -/
  | linked (x : Operand) (j : Join) (entries : Object)
  /-- The column itself. -/
  | flat (x : Operand)

/-- How the entry of a field with a value is read. -/
def reading (view : TableView) (f : Field) (v : Json) : Reading :=
  match view.operand? f with
  | .none => .none
  | some x =>
    match f.storage, f.kind, v with
    | .extension _, _, _ => .document x
    | _, .manyToMany _ _, v => .contains x (asList v)
    | _, .nestedExtension _, .obj entries => .contains x (.obj entries)
    | _, .foreignKey _ _, .obj entries =>
      match view.join? f.name with
      | .none => .none
      | some j => .linked x j entries
    | _, _, _ => .flat x

theorem entryConjuncts_reading (view : TableView) (mode : WhereMode) (f : Field) (v : Json)
    (b : Binds) :
    entryConjuncts view mode f v b =
      match reading view f v with
      | .none => ([], b)
      | .document x =>
        ([⟨f.name, (extensionCondition f x v b).1, false⟩], (extensionCondition f x v b).2)
      | .contains x part => containsConjunct f x part b
      | .linked x j entries => linkedConjuncts j x mode entries b
      | .flat x => flatConjunct f x v b := by
  unfold entryConjuncts reading
  cases view.operand? f with
  | none => rfl
  | some x =>
    generalize f.storage = storage, f.kind = kind
    cases storage <;> cases kind <;> cases v <;> try rfl
    all_goals
      dsimp only
      cases view.join? f.name <;> rfl

/-- What has to be contained is the value, or the value as a list. -/
theorem part_of_reading {view : TableView} {f : Field} {v : Json} {x : Operand} {part : Json}
    (h : reading view f v = .contains x part) : part = v ∨ part = asList v := by
  unfold reading at h
  cases hx : view.operand? f with
  | none =>
    rw [hx] at h
    contradiction
  | some y =>
    rw [hx] at h
    dsimp only at h
    split at h
    · contradiction
    · exact .inr (Reading.contains.inj h).2.symm
    · exact .inl (Reading.contains.inj h).2.symm
    · cases hj : view.join? f.name with
      | none =>
        rw [hj] at h
        contradiction
      | some j =>
        rw [hj] at h
        contradiction
    · contradiction

theorem join?_field {view : TableView} {name : String} {j : Join} (h : view.join? name = some j) :
    j.field = name := by
  simpa using List.find?_some h

/-- A linked row is asked for by an object, through the join of the field. -/
theorem object_of_reading {view : TableView} {f : Field} {v : Json} {x : Operand} {j : Join}
    {entries : Object} (h : reading view f v = .linked x j entries) :
    v = .obj entries ∧ view.join? f.name = some j := by
  unfold reading at h
  cases hx : view.operand? f with
  | none =>
    rw [hx] at h
    contradiction
  | some y =>
    rw [hx] at h
    dsimp only at h
    split at h
    · contradiction
    · contradiction
    · contradiction
    · cases hj : view.join? f.name with
      | none =>
        rw [hj] at h
        contradiction
      | some j' =>
        rw [hj] at h
        obtain ⟨_, hj', hentries⟩ := Reading.linked.inj h
        exact ⟨by rw [hentries], by rw [hj']⟩
    · contradiction

/-! ## Uses -/

/-- The parameter of a value for a column, with its cast. -/
def columnParam (f : Field) (v : Json) : Param × Option String :=
  match v with
  | .arr _ | .obj _ => (.json v, some "jsonb")
  | v => if f.decl.valueType.isCompound then (.json v, some "jsonb") else (.scalar v, f.cast)

/-- The parameter of a value for a column of a linked row, with its cast. -/
def linkedParam (cast : Option String) (v : Json) : Param × Option String :=
  match v with
  | .arr _ | .obj _ => (.json v, some "jsonb")
  | v => (.scalar v, cast)

/-- The parameter of a value that a field inside a document is compared with. -/
def documentParam (f : Field) (v : Json) : Param × Option String :=
  if f.decl.valueType.isNumeric then (.json v, some "jsonb")
  else if f.decl.valueType = .list then (.json (asList v), some "jsonb")
  else (.asText v, none)

/-- The use of a value for a field inside a document. -/
def documentUses (f : Field) (v : Json) : List Use :=
  useOf (.filter f.name) f.name (documentParam f) v

/-- The use of a document that has to be contained. -/
def containsUse (f : Field) (v : Json) : Use := ⟨.filter f.name, f.name, .json v, some "jsonb"⟩

/-- The use of a value for a column of a linked row. -/
def linkedUse (field : String) (casts : Keyed String) (key : String) (v : Json) : List Use :=
  useOf (.linked field key) (field ++ "_" ++ key) (linkedParam (casts.find? key)) v

/-- The uses of an object for a linked row. -/
def linkedUses (field : String) (casts : Keyed String) (entries : Object) : List Use :=
  entries.flatMap fun e => linkedUse field casts e.1 e.2

/-- The use of a value for a column. -/
def flatUses (f : Field) (v : Json) : List Use :=
  useOf (.filter f.name) ("w_" ++ f.name) (columnParam f) v

/-- The uses of one entry of a filter. -/
def entryUses (view : TableView) (f : Field) (v : Json) : List Use :=
  match reading view f v with
  | .none => []
  | .document _ => documentUses f v
  | .contains _ part => [containsUse f part]
  | .linked _ j entries => linkedUses j.field j.casts entries
  | .flat _ => flatUses f v

/-- The uses of several entries. -/
def usesOf (view : TableView) (entries : List (Field × Json)) : List Use :=
  entries.flatMap fun e => entryUses view e.1 e.2

/-! ## Conditions in place -/

/-- The condition on a field inside a document, with its placeholder in place. -/
def documentConditionAt (b : Binds) (f : Field) (x : Operand) (v : Json) : Condition :=
  let p := b.place f.name (documentParam f v).2
  if v.isNull then .isJsonNull x
  else if f.decl.valueType.isNumeric then .compare (.equals x p)
  else if f.decl.valueType = .list then .contains x p
  else .hasText x p

/-- A document that has to hold all of another one, with its placeholder in place. -/
def containsAt (b : Binds) (f : Field) (x : Operand) : List Conjunct :=
  [⟨f.name, .contains x (b.place f.name (some "jsonb")), false⟩]

/-- The comparison of a column of a linked row, with its placeholder in place. -/
def comparisonAt (b : Binds) (source field : String) (casts : Keyed String) (key : String)
    (v : Json) : Comparison :=
  if v.isNull then .isNull (.column source key)
  else .equals (.column source key)
    (b.place (field ++ "_" ++ key) (linkedParam (casts.find? key) v).2)

/-- The conditions on a linked row, with their placeholders in place. -/
def linkedAt (b : Binds) (j : Join) (x : Operand) (mode : WhereMode) (entries : Object) :
    List Conjunct :=
  match mode with
  | .select =>
    entries.map fun e =>
      ⟨j.field, .compare (comparisonAt b j.aliasName j.field j.casts e.1 e.2), true⟩
  | .mutate =>
    if entries.isEmpty then []
    else [⟨j.field, .among x j.table j.column
      (entries.map fun e => comparisonAt b j.table j.field j.casts e.1 e.2), false⟩]

/-- The condition on a column itself, with its placeholder in place. -/
def flatAt (b : Binds) (f : Field) (x : Operand) (v : Json) : List Conjunct :=
  if v.isNull then [⟨f.name, .compare (.isNull x), false⟩]
  else [⟨f.name, .compare (.equals x (b.place ("w_" ++ f.name) (columnParam f v).2)), false⟩]

/-- The conditions of one entry of a filter, with their placeholders in place. -/
def entryAt (b : Binds) (view : TableView) (mode : WhereMode) (f : Field) (v : Json) :
    List Conjunct :=
  match reading view f v with
  | .none => []
  | .document x => [⟨f.name, documentConditionAt b f x v, false⟩]
  | .contains x _ => containsAt b f x
  | .linked x j entries => linkedAt b j x mode entries
  | .flat x => flatAt b f x v

/-- The conditions of several entries, with their placeholders in place. -/
def conjunctsAt (b : Binds) (view : TableView) (mode : WhereMode)
    (entries : List (Field × Json)) : List Conjunct :=
  entries.flatMap fun e => entryAt b view mode e.1 e.2

/-! ## Generated conditions -/

theorem bindField_eq (b : Binds) (name : String) (f : Field) (v : Json) :
    bindField b name f v = b.bind name (columnParam f v).1 (columnParam f v).2 := by
  unfold bindField columnParam
  cases v <;> try rfl
  all_goals
    dsimp only
    split_ifs <;> rfl

theorem bindLinked_eq (b : Binds) (name : String) (cast : Option String) (v : Json) :
    bindLinked b name cast v = b.bind name (linkedParam cast v).1 (linkedParam cast v).2 := by
  cases v <;> rfl

theorem extensionCondition_eq (f : Field) (x : Operand) (v : Json) (b : Binds)
    (later : List Use) :
    extensionCondition f x v b =
      (documentConditionAt (bindAll b (documentUses f v ++ later)) f x v,
        bindAll b (documentUses f v)) := by
  by_cases hnull : v = .null
  · subst hnull
    rfl
  · have hbind := bind_useOf hnull b (.filter f.name) f.name (documentParam f) later
    have hgen : extensionCondition f x v b =
        if f.decl.valueType.isNumeric then
          (.compare (.equals x (b.bind f.name (.json v) (some "jsonb")).1),
            (b.bind f.name (.json v) (some "jsonb")).2)
        else if f.decl.valueType = .list then
          (.contains x (b.bind f.name (.json (asList v)) (some "jsonb")).1,
            (b.bind f.name (.json (asList v)) (some "jsonb")).2)
        else (.hasText x (b.bind f.name (.asText v) none).1,
          (b.bind f.name (.asText v) none).2) := by
      cases v <;> first | contradiction | rfl
    rw [hgen]
    unfold documentConditionAt documentUses
    simp only [isNull_of_ne hnull, Bool.false_eq_true, if_false]
    -- the parameter is chosen by the same tests as the condition
    by_cases hnumeric : f.decl.valueType.isNumeric = true
    · simp only [documentParam, if_pos hnumeric] at hbind ⊢
      rw [hbind]
    · by_cases hlist : f.decl.valueType = .list
      · simp only [documentParam, if_neg hnumeric, if_pos hlist] at hbind ⊢
        rw [hbind]
      · simp only [documentParam, if_neg hnumeric, if_neg hlist] at hbind ⊢
        rw [hbind]

theorem containsConjunct_eq (f : Field) (x : Operand) (v : Json) (b : Binds) (later : List Use) :
    containsConjunct f x v b =
      (containsAt (bindAll b ([containsUse f v] ++ later)) f x, bindAll b [containsUse f v]) := by
  have hbind := bind_use b (containsUse f v) later
  unfold containsConjunct
  rw [show b.bind f.name (.json v) (some "jsonb") = _ from hbind]
  rfl

theorem flatConjunct_eq (f : Field) (x : Operand) (v : Json) (b : Binds) (later : List Use) :
    flatConjunct f x v b =
      (flatAt (bindAll b (flatUses f v ++ later)) f x v, bindAll b (flatUses f v)) := by
  by_cases hnull : v = .null
  · subst hnull
    rfl
  · have hbind := bind_useOf hnull b (.filter f.name) ("w_" ++ f.name) (columnParam f) later
    have hgen : flatConjunct f x v b =
        ([⟨f.name, .compare (.equals x (bindField b ("w_" ++ f.name) f v).1), false⟩],
          (bindField b ("w_" ++ f.name) f v).2) := by
      cases v <;> first | contradiction | rfl
    rw [hgen, bindField_eq, hbind]
    unfold flatAt
    rw [isNull_of_ne hnull]
    rfl

theorem linkedComparisons_eq (source field : String) (casts : Keyed String) (entries : Object)
    (b : Binds) (later : List Use) :
    linkedComparisons source field casts entries b =
      (entries.map fun e =>
          comparisonAt (bindAll b (linkedUses field casts entries ++ later)) source field casts e.1
            e.2,
        bindAll b (linkedUses field casts entries)) := by
  induction entries generalizing b with
  | nil => rfl
  | cons e rest ih =>
    obtain ⟨key, v⟩ := e
    have huses : linkedUses field casts ((key, v) :: rest) =
        linkedUse field casts key v ++ linkedUses field casts rest := rfl
    by_cases hnull : v = .null
    · subst hnull
      rw [linkedComparisons, ih b, huses]
      rfl
    · have hbind := bind_useOf hnull b (.linked field key) (field ++ "_" ++ key)
        (linkedParam (casts.find? key)) (linkedUses field casts rest ++ later)
      have hgen : linkedComparisons source field casts ((key, v) :: rest) b =
          (.equals (.column source key)
              (bindLinked b (field ++ "_" ++ key) (casts.find? key) v).1 ::
            (linkedComparisons source field casts rest
              (bindLinked b (field ++ "_" ++ key) (casts.find? key) v).2).1,
            (linkedComparisons source field casts rest
              (bindLinked b (field ++ "_" ++ key) (casts.find? key) v).2).2) := by
        cases v <;> first | contradiction | rfl
      have hat (b : Binds) : comparisonAt b source field casts key v =
          .equals (.column source key)
            (b.place (field ++ "_" ++ key) (linkedParam (casts.find? key) v).2) := by
        unfold comparisonAt
        rw [isNull_of_ne hnull]
        rfl
      rw [hgen, bindLinked_eq, hbind, ih, huses, ← linkedUse, ← bindAll_append, ← bindAll_append,
        List.append_assoc, List.map_cons]
      dsimp only
      rw [hat]

theorem linkedConjuncts_eq (j : Join) (x : Operand) (mode : WhereMode) (entries : Object)
    (b : Binds) (later : List Use) :
    linkedConjuncts j x mode entries b =
      (linkedAt (bindAll b (linkedUses j.field j.casts entries ++ later)) j x mode entries,
        bindAll b (linkedUses j.field j.casts entries)) := by
  cases mode with
  | select =>
    unfold linkedConjuncts
    dsimp only
    rw [linkedComparisons_eq _ _ _ _ _ later]
    simp [linkedAt]
  | mutate =>
    unfold linkedConjuncts
    dsimp only
    rw [linkedComparisons_eq _ _ _ _ _ later]
    simp [linkedAt]

/-- The conditions of one entry; `later` is whatever is bound behind them. -/
theorem entryConjuncts_eq (view : TableView) (mode : WhereMode) (f : Field) (v : Json)
    (b : Binds) (later : List Use) :
    entryConjuncts view mode f v b =
      (entryAt (bindAll b (entryUses view f v ++ later)) view mode f v,
        bindAll b (entryUses view f v)) := by
  rw [entryConjuncts_reading]
  unfold entryAt entryUses
  cases reading view f v with
  | none => rfl
  | document x =>
    dsimp only
    rw [extensionCondition_eq f x v b later]
  | contains x part => exact containsConjunct_eq f x part b later
  | linked x j entries => exact linkedConjuncts_eq j x mode entries b later
  | flat x => exact flatConjunct_eq f x v b later

theorem conjuncts_eq (view : TableView) (mode : WhereMode) (entries : List (Field × Json))
    (b : Binds) (later : List Use) :
    conjuncts view mode entries b =
      (conjunctsAt (bindAll b (usesOf view entries ++ later)) view mode entries,
        bindAll b (usesOf view entries)) := by
  induction entries generalizing b with
  | nil => rfl
  | cons e rest ih =>
    obtain ⟨f, v⟩ := e
    have huses : usesOf view ((f, v) :: rest) = entryUses view f v ++ usesOf view rest := rfl
    rw [conjuncts, entryConjuncts_eq view mode f v b (usesOf view rest ++ later)]
    dsimp only
    rw [ih, huses, ← bindAll_append, ← bindAll_append, List.append_assoc]
    rfl

/-- The entries of a filter in the order in which their conditions are written. -/
def entriesOf (view : TableView) (payload : Object) : List (Field × Json) :=
  inGroups (present view.fields payload)

/-- The uses of a filter. -/
def filterUses (view : TableView) (payload : Object) : List Use :=
  usesOf view (entriesOf view payload)

theorem mem_inGroups (es : List (Field × Json)) (e : Field × Json) : e ∈ inGroups es ↔ e ∈ es := by
  unfold inGroups
  simp only [List.flatMap_cons, List.flatMap_nil, List.append_nil, List.mem_append,
    List.mem_filter, decide_eq_true_eq]
  constructor
  · rintro (h | h | h) <;> exact h.1
  · intro h
    cases hg : groupOf e.1 e.2 with
    | document => exact .inl ⟨h, rfl⟩
    | linked => exact .inr (.inl ⟨h, rfl⟩)
    | flat => exact .inr (.inr ⟨h, rfl⟩)

/-- The entries of a filter are its values under the names of the fields. -/
theorem mem_entriesOf {view : TableView} {payload : Object} {e : Field × Json} :
    e ∈ entriesOf view payload ↔ e.1 ∈ view.fields ∧ payload.find? e.1.name = some e.2 := by
  obtain ⟨f, v⟩ := e
  unfold entriesOf
  rw [mem_inGroups]
  unfold present
  rw [List.mem_filterMap]
  constructor
  · rintro ⟨g, hg, he⟩
    obtain ⟨w, hw, hgw⟩ := Option.map_eq_some_iff.mp he
    obtain ⟨rfl, rfl⟩ := Prod.mk.inj hgw
    exact ⟨hg, hw⟩
  · rintro ⟨hf, hv⟩
    exact ⟨f, hf, by simp [hv]⟩

theorem mem_useOf {origin : Origin} {name : String} {param : Json → Param × Option String}
    {v : Json} {u : Use} (h : u ∈ useOf origin name param v) :
    u = ⟨origin, name, (param v).1, (param v).2⟩ := by
  unfold useOf at h
  split_ifs at h
  · exact absurd h List.not_mem_nil
  · exact List.mem_singleton.mp h

theorem ofFilter_eq (view : TableView) (payload : Object) (mode : WhereMode) (b : Binds)
    (later : List Use) :
    WhereClause.ofFilter view payload mode b =
      (⟨conjunctsAt (bindAll b (filterUses view payload ++ later)) view mode
          (entriesOf view payload)⟩,
        bindAll b (filterUses view payload)) := by
  unfold WhereClause.ofFilter
  rw [← entriesOf, conjuncts_eq view mode _ b later]
  rfl

end Filter

/-! ## Changes -/

namespace Change

open RowServe.Filter (bindAll columnParam useOf)
open Sql (Assigned Assignment Binds Operand Param)

/-- The fields that a payload has a value for, with the values; `skip` is left out. -/
def changed (payload : Object) (skip : Option String) (fields : List Field) :
    List (Field × Json) :=
  fields.filterMap fun f =>
    if skip = some f.name then none else (payload.find? f.name).map (f, ·)

/-- The parameter of a value that an update writes, with its cast. -/
def assignedParam (op : Operation) (kidColumn : Option String) (f : Field) (v : Json) :
    Param × Option String :=
  if op = .patch && f.isMergeable then (.json v, some "jsonb")
  else if kidColumn = some f.name then (.json v, some "jsonb")
  else columnParam f v

/-- The use of a value that an update writes. -/
def assignedUses (op : Operation) (kidColumn : Option String) (f : Field) (v : Json) : List Use :=
  useOf (.payload f.name) ("u_" ++ f.name) (assignedParam op kidColumn f) v

/-- The value an update gives a column, with its placeholder in place. -/
def assignedAt (b : Binds) (view : TableView) (op : Operation) (kidColumn : Option String)
    (f : Field) (v : Json) : Assigned :=
  let p := b.place ("u_" ++ f.name) (assignedParam op kidColumn f v).2
  if v.isNull then .null
  else if op = .patch && f.isMergeable then .merged (.column view.table f.name) p
  else if kidColumn = some f.name then .extended (.column view.table f.name) p
  else .bound p

/-- The use of a value that an insert writes. -/
def insertedUses (f : Field) (v : Json) : List Use :=
  useOf (.payload f.name) ("i_" ++ f.name) (columnParam f) v

/-- The value an insert gives a column, with its placeholder in place. -/
def insertedAt (b : Binds) (f : Field) (v : Json) : Assigned :=
  if v.isNull then .null else .bound (b.place ("i_" ++ f.name) (columnParam f v).2)

theorem assigned_eq (view : TableView) (op : Operation) (kidColumn : Option String) (f : Field)
    (v : Json) (b : Binds) (later : List Use) :
    assigned view op kidColumn f v b =
      (assignedAt (bindAll b (assignedUses op kidColumn f v ++ later)) view op kidColumn f v,
        bindAll b (assignedUses op kidColumn f v)) := by
  by_cases hnull : v = .null
  · subst hnull
    rfl
  · have hbind := Filter.bind_useOf hnull b (.payload f.name) ("u_" ++ f.name)
      (assignedParam op kidColumn f) later
    have hgen : assigned view op kidColumn f v b =
        if op = .patch && f.isMergeable then
          (.merged (.column view.table f.name)
              (b.bind ("u_" ++ f.name) (.json v) (some "jsonb")).1,
            (b.bind ("u_" ++ f.name) (.json v) (some "jsonb")).2)
        else if kidColumn = some f.name then
          (.extended (.column view.table f.name)
              (b.bind ("u_" ++ f.name) (.json v) (some "jsonb")).1,
            (b.bind ("u_" ++ f.name) (.json v) (some "jsonb")).2)
        else
          (.bound (Filter.bindField b ("u_" ++ f.name) f v).1,
            (Filter.bindField b ("u_" ++ f.name) f v).2) := by
      cases v <;> first | contradiction | rfl
    rw [hgen, Filter.bindField_eq]
    unfold assignedAt assignedUses
    simp only [Filter.isNull_of_ne hnull, Bool.false_eq_true, if_false]
    by_cases hmerge : (op = .patch && f.isMergeable) = true
    · simp only [assignedParam, if_pos hmerge] at hbind ⊢
      rw [hbind]
    · by_cases hkid : kidColumn = some f.name
      · simp only [assignedParam, if_neg hmerge, if_pos hkid] at hbind ⊢
        rw [hbind]
      · simp only [assignedParam, if_neg hmerge, if_neg hkid] at hbind ⊢
        rw [hbind]

theorem inserted_eq (f : Field) (v : Json) (b : Binds) (later : List Use) :
    inserted f v b =
      (insertedAt (bindAll b (insertedUses f v ++ later)) f v, bindAll b (insertedUses f v)) := by
  by_cases hnull : v = .null
  · subst hnull
    rfl
  · have hbind := Filter.bind_useOf hnull b (.payload f.name) ("i_" ++ f.name) (columnParam f) later
    have hgen : inserted f v b =
        (.bound (Filter.bindField b ("i_" ++ f.name) f v).1,
          (Filter.bindField b ("i_" ++ f.name) f v).2) := by
      cases v <;> first | contradiction | rfl
    rw [hgen, Filter.bindField_eq, hbind]
    unfold insertedAt
    rw [Filter.isNull_of_ne hnull]
    rfl

theorem changed_cons (payload : Object) (skip : Option String) (f : Field)
    (fields : List Field) :
    changed payload skip (f :: fields) =
      (if skip = some f.name then [] else ((payload.find? f.name).map (f, ·)).toList) ++
        changed payload skip fields := by
  unfold changed
  rw [List.filterMap_cons]
  by_cases hskip : skip = some f.name
  · simp [hskip]
  · cases payload.find? f.name <;> simp [hskip]

theorem mem_changed_iff {payload : Object} {skip : Option String} {fields : List Field}
    {e : Field × Json} : e ∈ changed payload skip fields ↔
      e.1 ∈ fields ∧ skip ≠ some e.1.name ∧ payload.find? e.1.name = some e.2 := by
  unfold changed
  rw [List.mem_filterMap]
  constructor
  · rintro ⟨f, hf, he⟩
    split_ifs at he with hskip
    obtain ⟨v, hv, rfl⟩ := Option.map_eq_some_iff.mp he
    exact ⟨hf, hskip, hv⟩
  · rintro ⟨hf, hskip, hv⟩
    refine ⟨e.1, hf, ?_⟩
    rw [if_neg hskip, hv]
    rfl

theorem mem_changed {payload : Object} {skip : Option String} {fields : List Field}
    {e : Field × Json} (h : e ∈ changed payload skip fields) :
    e.1 ∈ fields ∧ payload.find? e.1.name = some e.2 := by
  obtain ⟨hf, _, hv⟩ := mem_changed_iff.mp h
  exact ⟨hf, hv⟩

theorem assignmentsOf_eq (view : TableView) (payload : Object) (op : Operation)
    (kidColumn : Option String) (fields : List Field) (b : Binds) (later : List Use) :
    assignmentsOf view payload op kidColumn fields b =
      ((changed payload (some view.pk) fields).map fun e =>
          ⟨e.1.name, assignedAt (bindAll b ((changed payload (some view.pk) fields).flatMap
            (fun e => assignedUses op kidColumn e.1 e.2) ++ later)) view op kidColumn e.1 e.2⟩,
        bindAll b ((changed payload (some view.pk) fields).flatMap
          fun e => assignedUses op kidColumn e.1 e.2)) := by
  induction fields generalizing b with
  | nil => rfl
  | cons f fields ih =>
    rw [assignmentsOf, changed_cons]
    by_cases hpk : f.name = view.pk
    · cases payload.find? f.name with
      | none => simpa [hpk] using ih b
      | some v => simpa [hpk] using ih b
    · have hskip : some view.pk ≠ some f.name := fun h => hpk (Option.some.inj h).symm
      rw [if_neg hskip]
      cases payload.find? f.name with
      | none => simpa using ih b
      | some v =>
        dsimp only [Option.map_some, Option.toList_some, List.singleton_append]
        rw [if_neg hpk, assigned_eq view op kidColumn f v b
          ((changed payload (some view.pk) fields).flatMap
            (fun e => assignedUses op kidColumn e.1 e.2) ++ later)]
        dsimp only
        rw [ih]
        simp only [List.map_cons, List.flatMap_cons, List.append_assoc, Filter.bindAll_append]

theorem insertionsOf_eq (payload : Object) (skip : Option String) (fields : List Field)
    (b : Binds) (later : List Use) :
    insertionsOf payload skip fields b =
      ((changed payload skip fields).map fun e =>
          ⟨e.1.name, insertedAt (bindAll b ((changed payload skip fields).flatMap
            (fun e => insertedUses e.1 e.2) ++ later)) e.1 e.2⟩,
        bindAll b ((changed payload skip fields).flatMap fun e => insertedUses e.1 e.2)) := by
  induction fields generalizing b with
  | nil => rfl
  | cons f fields ih =>
    rw [insertionsOf, changed_cons]
    by_cases hskip : skip = some f.name
    · simpa [hskip] using ih b
    · rw [if_neg hskip, if_neg hskip]
      cases payload.find? f.name with
      | none => simpa using ih b
      | some v =>
        dsimp only [Option.map_some, Option.toList_some, List.singleton_append]
        rw [inserted_eq f v b ((changed payload skip fields).flatMap
          (fun e => insertedUses e.1 e.2) ++ later)]
        dsimp only
        rw [ih]
        simp only [List.map_cons, List.flatMap_cons, List.append_assoc, Filter.bindAll_append]

/-- The uses of the values that an update writes. -/
def assignmentUses (view : TableView) (payload : Object) (op : Operation)
    (kidColumn : Option String) : List Use :=
  (changed payload (some view.pk) (view.fields.filter Field.isColumn)).flatMap
    fun e => assignedUses op kidColumn e.1 e.2

/-- The values that an update writes, with their placeholders in place. -/
def assignmentsAt (b : Binds) (view : TableView) (payload : Object) (op : Operation)
    (kidColumn : Option String) : List Assignment :=
  (changed payload (some view.pk) (view.fields.filter Field.isColumn)).map
    fun e => ⟨e.1.name, assignedAt b view op kidColumn e.1 e.2⟩

theorem assignments_eq (view : TableView) (payload : Object) (op : Operation)
    (kidColumn : Option String) (b : Binds) :
    assignments view payload op kidColumn b =
      (assignmentsAt (bindAll b (assignmentUses view payload op kidColumn)) view payload op
          kidColumn,
        bindAll b (assignmentUses view payload op kidColumn)) := by
  unfold assignments
  rw [assignmentsOf_eq view payload op kidColumn _ b [], List.append_nil]
  rfl

/-- The uses of the values that an insert writes. -/
def insertionUses (view : TableView) (autoincrement : Option String) (payload : Object) :
    List Use :=
  (changed payload (autoincrement.map fun _ => view.pk)
    (view.fields.filter Field.isColumn)).flatMap fun e => insertedUses e.1 e.2

/-- The values that an insert writes, with their placeholders in place. -/
def insertionsAt (b : Binds) (view : TableView) (autoincrement : Option String)
    (payload : Object) : List Assignment :=
  (autoincrement.map fun sequence => ⟨view.pk, .next sequence⟩).toList ++
    (changed payload (autoincrement.map fun _ => view.pk) (view.fields.filter Field.isColumn)).map
      fun e => ⟨e.1.name, insertedAt b e.1 e.2⟩

theorem insertions_eq (view : TableView) (autoincrement : Option String) (payload : Object)
    (b : Binds) :
    insertions view autoincrement payload b =
      (insertionsAt (bindAll b (insertionUses view autoincrement payload)) view autoincrement
          payload,
        bindAll b (insertionUses view autoincrement payload)) := by
  unfold insertions
  cases autoincrement with
  | none =>
    dsimp only
    rw [insertionsOf_eq payload none _ b [], List.append_nil]
    rfl
  | some sequence =>
    dsimp only
    rw [insertionsOf_eq payload (some view.pk) _ b [], List.append_nil]
    rfl

end Change

/-! ## Statements -/

namespace Resource

open RowServe.Filter (bindAll filterUses)

theorem binds_ofFilter (view : TableView) (filter : Object) (mode : WhereMode) (b : Sql.Binds) :
    (WhereClause.ofFilter view filter mode b).2 = bindAll b (filterUses view filter) := by
  rw [Filter.ofFilter_eq view filter mode b []]

theorem getCommand_eq (r : Resource) (filter : Object) (selection : Option (List Selected)) :
    r.getCommand filter selection =
      complete (r.projected false selection).1
        (r.readValues (r.projected false selection).2
          (WhereClause.ofFilter r.toTableView filter .select []).1)
        (bindAll [] (filterUses r.toTableView filter)) := by
  rw [← binds_ofFilter r.toTableView filter .select]
  rfl

/-- The slots that a list fills. -/
def listValues (r : Resource) (joins : List String) (w : WhereClause) (page : PageSpec) :
    Sql.Template.Values :=
  ((((r.readValues joins w).set .orderBy (Selection.orderBy r.toTableView page.orderBy)).set
    .orderHow page.orderDir.sql).set .limit page.limit.repr).set .offset page.offset.repr

theorem listCommand_eq (r : Resource) (filter : Object) (page : PageSpec)
    (selection : Option (List Selected)) :
    r.listCommand filter page selection =
      complete (r.projected true selection).1
        (r.listValues (r.projected true selection).2
          (WhereClause.ofFilter r.toTableView filter .select []).1 page)
        (bindAll [] (filterUses r.toTableView filter)) := by
  rw [← binds_ofFilter r.toTableView filter .select]
  rfl

/-- The assignments of an update behind a filter. -/
def assignmentsBehind (r : Resource) (op : Operation) (filter payload : Object) :
    List Sql.Assignment :=
  (Change.assignments r.toTableView payload op r.kidColumn
    (bindAll [] (filterUses r.toTableView filter))).1

theorem updateCommand_ok {r : Resource} {op : Operation} {filter payload : Object}
    {cmd : Sql.Command} (h : r.updateCommand op filter payload = .ok cmd) :
    complete r.templates.update
      ((Sql.Template.Values.empty.set .updates
        (Sql.setList (r.assignmentsBehind op filter payload))).set .predicate
          (WhereClause.ofFilter r.toTableView filter .mutate []).1.sql)
      (bindAll [] (filterUses r.toTableView filter ++
        Change.assignmentUses r.toTableView payload op r.kidColumn)) = .ok cmd := by
  unfold updateCommand at h
  dsimp only at h
  split_ifs at h
  unfold assignmentsBehind
  rw [Filter.bindAll_append, ← binds_ofFilter r.toTableView filter .mutate]
  rw [Change.assignments_eq] at h ⊢
  exact h

theorem insertCommand_ok {r : Resource} {payload : Object} {cmd : Sql.Command}
    (h : r.insertCommand payload = .ok cmd) :
    let b := bindAll [] (Change.insertionUses r.toTableView r.autoincrement payload)
    let values := Change.insertionsAt b r.toTableView r.autoincrement payload
    complete r.templates.insert
      ((Sql.Template.Values.empty.set .cols (Sql.columnList values)).set .vals
        (Sql.valueList values)) b = .ok cmd := by
  unfold insertCommand at h
  rw [Change.insertions_eq] at h
  dsimp only at h
  split_ifs at h
  exact h

theorem deleteCommand_eq (r : Resource) (t : Sql.Template) (filter : Object) :
    r.deleteCommand t filter =
      complete t
        (Sql.Template.Values.empty.set .predicate
          (WhereClause.ofFilter r.toTableView filter .mutate []).1.sql)
        (bindAll [] (filterUses r.toTableView filter)) := by
  rw [← binds_ofFilter r.toTableView filter .mutate]
  rfl

theorem complete_ok {t : Sql.Template} {values : Sql.Template.Values} {b : Sql.Binds}
    {cmd : Sql.Command} (h : complete t values b = .ok cmd) :
    t.render values = .ok cmd.text ∧ cmd.params = b.params := by
  unfold complete at h
  cases hrender : t.render values with
  | error e =>
    rw [hrender] at h
    contradiction
  | ok text =>
    rw [hrender] at h
    rw [← Except.ok.inj h]
    exact ⟨rfl, rfl⟩

end Resource

end RowServe
