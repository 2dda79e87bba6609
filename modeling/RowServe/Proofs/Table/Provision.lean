import RowServe.Proofs.Declaration.Plain
import RowServe.Proofs.Declaration.Tables
import RowServe.Proofs.Resource.Parts
import RowServe.Table.Provision

/-!
# The order of provisioning

Every statement of the provisioning is cut into pieces, of which some are names: of what the
statement makes, and of what it uses. The statements are closed if each one uses only what it
makes itself or what an earlier one has made. For checked declarations there is one kind of
name that can be left over: columns that are to be unique together need not be stored.

Results:

* `statements_eq`: the statements are the texts of their pieces.
* `closed_pieces_iff`: when the statements of tables are closed.
* `provision_closed_iff`: when the statements of checked declarations are closed.
* `preview_open`: a unique group with a computed field.
-/

namespace RowServe.Provision

open Sql (quoted literal)

/-! ## Pieces of statements -/

/-- What a statement can make and use. -/
inductive Ref where
  | sequence (name : String)
  | table (name : String)
  | column (table name : String)
  deriving DecidableEq

/-- The name alone. -/
def Ref.name : Ref → String
  | sequence name | table name | column _ name => name

/-- A piece of a statement: some text, or a name. -/
inductive Piece where
  | word (text : String)
  | makes (ref : Ref)
  | uses (ref : Ref)
  deriving DecidableEq

/-- The text of a piece. A sequence that is used is named by a literal. -/
def Piece.text : Piece → String
  | word text => text
  | makes ref => quoted ref.name
  | uses (.sequence name) => literal name
  | uses (.table name) | uses (.column _ name) => quoted name

/-- The text of pieces. -/
def spell : List Piece → String
  | [] => ""
  | p :: ps => p.text ++ spell ps

/-- What pieces make. -/
def made (ps : List Piece) : List Ref :=
  ps.filterMap fun
    | .makes ref => some ref
    | _ => none

/-- What pieces use. -/
def used (ps : List Piece) : List Ref :=
  ps.filterMap fun
    | .uses ref => some ref
    | _ => none

/-- Several pieces with a text between each two of them. -/
def separated (sep : String) : List (List Piece) → List Piece
  | [] => []
  | [ps] => ps
  | ps :: rest => ps ++ .word sep :: separated sep rest

theorem spell_word (text : String) : spell [.word text] = text := String.append_empty

theorem spell_append (ps qs : List Piece) : spell (ps ++ qs) = spell ps ++ spell qs := by
  induction ps with
  | nil => simp [spell]
  | cons p ps ih => simp [spell, ih, String.append_assoc]

theorem made_append (ps qs : List Piece) : made (ps ++ qs) = made ps ++ made qs :=
  List.filterMap_append

theorem used_append (ps qs : List Piece) : used (ps ++ qs) = used ps ++ used qs :=
  List.filterMap_append

@[simp] theorem made_word (text : String) (ps : List Piece) :
    made (.word text :: ps) = made ps := rfl

@[simp] theorem made_makes (ref : Ref) (ps : List Piece) :
    made (.makes ref :: ps) = ref :: made ps := rfl

@[simp] theorem made_uses (ref : Ref) (ps : List Piece) : made (.uses ref :: ps) = made ps := rfl

@[simp] theorem made_nil : made [] = [] := rfl

@[simp] theorem used_word (text : String) (ps : List Piece) :
    used (.word text :: ps) = used ps := rfl

@[simp] theorem used_makes (ref : Ref) (ps : List Piece) :
    used (.makes ref :: ps) = used ps := rfl

@[simp] theorem used_uses (ref : Ref) (ps : List Piece) :
    used (.uses ref :: ps) = ref :: used ps := rfl

@[simp] theorem used_nil : used [] = [] := rfl

theorem spell_separated (sep : String) (pss : List (List Piece)) :
    spell (separated sep pss) = sep.intercalate (pss.map spell) := by
  induction pss with
  | nil => rfl
  | cons ps rest ih =>
    cases rest with
    | nil => simp [separated]
    | cons qs rest =>
      show spell (ps ++ .word sep :: separated sep (qs :: rest)) = _
      rw [spell_append, spell, ih]
      simp [Piece.text, String.intercalate_cons_cons, String.append_assoc]

theorem made_separated (sep : String) (pss : List (List Piece)) :
    made (separated sep pss) = pss.flatMap made := by
  induction pss with
  | nil => rfl
  | cons ps rest ih =>
    cases rest with
    | nil => simp [separated]
    | cons qs rest =>
      show made (ps ++ .word sep :: separated sep (qs :: rest)) = _
      rw [made_append, made_word, ih, List.flatMap_cons (x := ps)]

theorem used_separated (sep : String) (pss : List (List Piece)) :
    used (separated sep pss) = pss.flatMap used := by
  induction pss with
  | nil => rfl
  | cons ps rest ih =>
    cases rest with
    | nil => simp [separated]
    | cons qs rest =>
      show used (ps ++ .word sep :: separated sep (qs :: rest)) = _
      rw [used_append, used_word, ih, List.flatMap_cons (x := ps)]

/-! ## Statements in pieces -/

/-- The default of a column. -/
def defaultPieces (c : ColumnDef) : List Piece :=
  match c.sequence, c.default with
  | some seq, _ => [.word " DEFAULT nextval(", .uses (.sequence seq), .word ")"]
  | none, some d => [.word (" DEFAULT " ++ d)]
  | none, none => []

/-- A column inside a table definition. -/
def columnPieces (table : String) (c : ColumnDef) : List Piece :=
  [.makes (.column table c.name), .word (" " ++ c.sqlType),
    .word (if c.primaryKey then " PRIMARY KEY" else if c.nullable then "" else " NOT NULL")] ++
  defaultPieces c ++ [.word (if c.unique && !c.primaryKey then " UNIQUE" else "")]

/-- A group of columns inside a table definition. -/
def groupPieces (table : String) (group : List String) : List Piece :=
  .word "UNIQUE (" :: separated ", " (group.map fun n => [.uses (.column table n)]) ++ [.word ")"]

/-- The statement that creates a table. -/
def createPieces (t : TableDef) : List Piece :=
  [.word "CREATE TABLE IF NOT EXISTS ", .makes (.table t.name), .word " (\n  "] ++
  separated ",\n  " (t.columns.map (columnPieces t.name) ++
    t.uniqueTogether.map (groupPieces t.name)) ++ [.word "\n)"]

/-- The statement that creates a sequence. -/
def sequencePieces (name : String) : List Piece :=
  [.word "CREATE SEQUENCE IF NOT EXISTS ", .makes (.sequence name)]

/-- The statement that creates the index of a column. -/
def indexPieces (t : TableDef) (c : ColumnDef) : List Piece :=
  [.word ("CREATE INDEX IF NOT EXISTS " ++ quoted (t.indexName c) ++ " ON "),
    .uses (.table t.name), .word " (", .uses (.column t.name c.name), .word ")"]

/-- The statement that adds the foreign key of a column. -/
def foreignKeyPieces (t : TableDef) (c : ColumnDef) (target : String × String) : List Piece :=
  [.word "DO $$ BEGIN\n  ALTER TABLE ", .uses (.table t.name),
    .word (" ADD CONSTRAINT " ++ quoted ("fk_" ++ t.name ++ "_" ++ c.name) ++ " FOREIGN KEY ("),
    .uses (.column t.name c.name), .word ") REFERENCES ", .uses (.table target.1), .word " (",
    .uses (.column target.1 target.2),
    .word ");\nEXCEPTION WHEN duplicate_object THEN NULL;\nEND $$"]

/-- All statements in order. -/
def pieces (tables : List TableDef) : List (List Piece) :=
  [.word mergeFunction] ::
    ((tables.flatMap TableDef.sequences).map sequencePieces ++ tables.map createPieces ++
      (tables.flatMap fun t => t.indexed.map (indexPieces t)) ++
      tables.flatMap fun t => t.columns.filterMap fun c => c.references.map (foreignKeyPieces t c))

theorem spell_default (c : ColumnDef) : spell (defaultPieces c) = c.defaultSql := by
  unfold defaultPieces ColumnDef.defaultSql
  cases c.sequence <;> cases c.default <;> simp [spell, Piece.text, String.append_assoc]

theorem spell_column (table : String) (c : ColumnDef) : spell (columnPieces table c) = c.sql := by
  unfold columnPieces ColumnDef.sql
  simp only [spell_append, spell_default, spell, Piece.text, Ref.name, String.append_empty,
    String.append_assoc]

theorem spell_group (table : String) (group : List String) :
    spell (groupPieces table group) = TableDef.groupSql group := by
  have hnames : group.map (spell ∘ fun n => [Piece.uses (.column table n)]) = group.map quoted :=
    List.map_congr_left fun n _ => by simp [spell, Piece.text]
  unfold groupPieces TableDef.groupSql
  rw [List.cons_append, spell, spell_append, spell_separated, List.map_map, hnames]
  simp [spell, Piece.text, String.append_assoc]

theorem spell_sequence (name : String) : spell (sequencePieces name) = sequenceSql name := by
  unfold sequencePieces sequenceSql
  simp only [spell, Piece.text, Ref.name, String.append_empty]

theorem spell_create (t : TableDef) : spell (createPieces t) = t.createSql := by
  have hcolumns : t.columns.map (spell ∘ columnPieces t.name) = t.columns.map ColumnDef.sql :=
    List.map_congr_left fun c _ => spell_column t.name c
  have hgroups : t.uniqueTogether.map (spell ∘ groupPieces t.name) =
      t.uniqueTogether.map TableDef.groupSql :=
    List.map_congr_left fun group _ => spell_group t.name group
  unfold createPieces TableDef.createSql
  rw [spell_append, spell_append, spell_separated, List.map_append, List.map_map, List.map_map,
    hcolumns, hgroups]
  simp [spell, Piece.text, Ref.name, String.append_assoc]

theorem spell_indexes (t : TableDef) : (t.indexed.map (indexPieces t)).map spell = t.indexSql := by
  unfold TableDef.indexSql
  rw [List.map_map]
  refine List.map_congr_left fun c _ => ?_
  simp only [Function.comp_apply, indexPieces, spell, Piece.text, String.append_assoc,
    String.append_empty]

theorem spell_foreignKeys (t : TableDef) :
    (t.columns.filterMap fun c => c.references.map (foreignKeyPieces t c)).map spell =
      t.foreignKeySql := by
  unfold TableDef.foreignKeySql
  rw [List.map_filterMap]
  refine List.filterMap_congr fun c _ => ?_
  rw [Option.map_map]
  refine congrArg (fun f => c.references.map f) (funext fun target => ?_)
  simp only [Function.comp_apply, foreignKeyPieces, spell, Piece.text,
    String.append_assoc, String.append_empty]

/-- The statements are the texts of their pieces. -/
theorem statements_eq (tables : List TableDef) :
    statements tables = (pieces tables).map spell := by
  have hsequences (names : List String) :
      (names.map sequencePieces).map spell = names.map sequenceSql := by
    rw [List.map_map]
    exact List.map_congr_left fun name _ => spell_sequence name
  have hcreates : (tables.map createPieces).map spell = tables.map TableDef.createSql := by
    rw [List.map_map]
    exact List.map_congr_left fun t _ => spell_create t
  have hindexes : (tables.flatMap fun t => t.indexed.map (indexPieces t)).map spell =
      tables.flatMap TableDef.indexSql := by
    rw [List.map_flatMap]
    exact List.flatMap_congr fun t _ => spell_indexes t
  have hforeignKeys :
      (tables.flatMap fun t => t.columns.filterMap fun c =>
        c.references.map (foreignKeyPieces t c)).map spell =
      tables.flatMap TableDef.foreignKeySql := by
    rw [List.map_flatMap]
    exact List.flatMap_congr fun t _ => spell_foreignKeys t
  unfold statements pieces
  rw [List.map_cons, List.map_append, List.map_append, List.map_append, spell_word, hsequences,
    hcreates, hindexes, hforeignKeys]

/-! ## Closed statements -/

/-- Each statement uses only what is there before it and what it makes itself. -/
def Closed (there : List Ref) : List (List Piece) → Prop
  | [] => True
  | s :: rest => (∀ ref ∈ used s, ref ∈ there ∨ ref ∈ made s) ∧ Closed (there ++ made s) rest

theorem closed_word (there : List Ref) (text : String) (rest : List (List Piece)) :
    Closed there ([.word text] :: rest) ↔ Closed there rest := by
  simp [Closed]

theorem closed_append (there : List Ref) (ss rest : List (List Piece)) :
    Closed there (ss ++ rest) ↔ Closed there ss ∧ Closed (there ++ ss.flatMap made) rest := by
  induction ss generalizing there with
  | nil => simp [Closed]
  | cons s ss ih =>
    rw [List.cons_append, Closed, Closed, ih, List.flatMap_cons, List.append_assoc, and_assoc]

/-- Statements that make nothing use what is there. -/
theorem closed_iff_of_makes {there : List Ref} {ss : List (List Piece)}
    (h : ∀ s ∈ ss, made s = []) :
    Closed there ss ↔ ∀ s ∈ ss, ∀ ref ∈ used s, ref ∈ there := by
  induction ss with
  | nil => simp [Closed]
  | cons s ss ih =>
    obtain ⟨hs, hss⟩ := List.forall_mem_cons.mp h
    rw [Closed, hs, List.append_nil, ih hss, List.forall_mem_cons]
    simp

theorem closed_of_uses {there : List Ref} {ss : List (List Piece)} (h : ∀ s ∈ ss, used s = []) :
    Closed there ss := by
  induction ss generalizing there with
  | nil => trivial
  | cons s ss ih =>
    obtain ⟨hs, hss⟩ := List.forall_mem_cons.mp h
    exact ⟨by simp [hs], ih hss⟩

/-! ## What each statement makes and uses -/

theorem made_default (c : ColumnDef) : made (defaultPieces c) = [] := by
  unfold defaultPieces
  split <;> rfl

theorem used_default (c : ColumnDef) :
    used (defaultPieces c) = c.sequence.toList.map .sequence := by
  unfold defaultPieces
  cases c.sequence <;> cases c.default <;> rfl

theorem made_column (table : String) (c : ColumnDef) :
    made (columnPieces table c) = [.column table c.name] := by
  unfold columnPieces
  simp [made_append, made_default]

theorem used_column (table : String) (c : ColumnDef) :
    used (columnPieces table c) = c.sequence.toList.map .sequence := by
  unfold columnPieces
  simp [used_append, used_default]

theorem made_group (table : String) (group : List String) :
    made (groupPieces table group) = [] := by
  unfold groupPieces
  simp [made_append, made_separated, List.flatMap_map]

theorem used_group (table : String) (group : List String) :
    used (groupPieces table group) = group.map (.column table ·) := by
  unfold groupPieces
  simp only [List.cons_append, used_word, used_append, used_separated, List.flatMap_map, used_uses,
    used_nil, List.append_nil]
  exact List.map_eq_flatMap.symm

theorem mem_made_create {t : TableDef} {ref : Ref} :
    ref ∈ made (createPieces t) ↔
      ref = .table t.name ∨ ∃ c ∈ t.columns, ref = .column t.name c.name := by
  unfold createPieces
  simp [made_append, made_separated, List.flatMap_map, made_column, made_group]

theorem mem_used_create {t : TableDef} {ref : Ref} :
    ref ∈ used (createPieces t) ↔ (∃ seq ∈ t.sequences, ref = .sequence seq) ∨
      ∃ group ∈ t.uniqueTogether, ∃ n ∈ group, ref = .column t.name n := by
  have hsequences : (∃ c ∈ t.columns, ∃ seq, c.sequence = some seq ∧ ref = .sequence seq) ↔
      ∃ seq ∈ t.sequences, ref = .sequence seq := by
    unfold TableDef.sequences
    constructor
    · rintro ⟨c, hc, seq, hseq, rfl⟩
      exact ⟨seq, List.mem_filterMap.mpr ⟨c, hc, hseq⟩, rfl⟩
    · rintro ⟨seq, hmem, rfl⟩
      obtain ⟨c, hc, hseq⟩ := List.mem_filterMap.mp hmem
      exact ⟨c, hc, seq, hseq, rfl⟩
  rw [← hsequences]
  unfold createPieces
  simp [used_append, used_separated, List.flatMap_map, used_column, used_group, eq_comm]

/-! ## All statements -/

/-- A table has a column. -/
def Has (t : TableDef) (table column : String) : Prop :=
  t.name = table ∧ ∃ c ∈ t.columns, c.name = column

/-- Every column of a unique group is one of the table, or of an earlier one of the same name. -/
def Grouped (tables : List TableDef) : Prop :=
  ∀ before t after, tables = before ++ t :: after →
    ∀ group ∈ t.uniqueTogether, ∀ n ∈ group, ∃ t' ∈ before ++ [t], Has t' t.name n

/-- Every foreign key refers to a column of a table. -/
def Referenced (tables : List TableDef) : Prop :=
  ∀ t ∈ tables, ∀ c ∈ t.columns, ∀ target ∈ c.references, ∃ t' ∈ tables, Has t' target.1 target.2

theorem mem_made_creates {tables : List TableDef} {table column : String} :
    .column table column ∈ (tables.map createPieces).flatMap made ↔
      ∃ t ∈ tables, Has t table column := by
  simp only [List.mem_flatMap, List.mem_map, exists_exists_and_eq_and, mem_made_create,
    Ref.column.injEq, reduceCtorEq, false_or, Has]
  refine exists_congr fun t => and_congr_right fun _ => ?_
  constructor
  · rintro ⟨c, hc, rfl, rfl⟩
    exact ⟨rfl, c, hc, rfl⟩
  · rintro ⟨rfl, c, hc, rfl⟩
    exact ⟨c, hc, rfl, rfl⟩

/-- What holds at every place of a list holds at its head, and at every place behind it. -/
theorem forall_places_cons {α : Type} {P : List α → α → Prop} {a : α} {as : List α} :
    (∀ before b after, a :: as = before ++ b :: after → P before b) ↔
      P [] a ∧ ∀ before b after, as = before ++ b :: after → P (a :: before) b := by
  constructor
  · intro h
    refine ⟨h [] a as rfl, fun before b after hsplit => h (a :: before) b after ?_⟩
    rw [hsplit, List.cons_append]
  · rintro ⟨hhead, htail⟩ before b after hsplit
    cases before with
    | nil =>
      obtain ⟨rfl, _⟩ := List.cons.inj hsplit
      exact hhead
    | cons c before =>
      obtain ⟨rfl, hrest⟩ := List.cons.inj hsplit
      exact htail before b after hrest

/-- The statements that create the tables, if their sequences and the columns of earlier
    tables are there. -/
theorem closed_creates {tables earlier : List TableDef} {there : List Ref}
    (hsequences : ∀ t ∈ tables, ∀ seq ∈ t.sequences, .sequence seq ∈ there)
    (hearlier : ∀ table column, .column table column ∈ there ↔
      ∃ t ∈ earlier, Has t table column) :
    Closed there (tables.map createPieces) ↔ ∀ before t after, tables = before ++ t :: after →
      ∀ group ∈ t.uniqueTogether, ∀ n ∈ group, ∃ t' ∈ earlier ++ (before ++ [t]),
        Has t' t.name n := by
  -- What is there grows by the columns of one table after the other; the sequences stay.
  induction tables generalizing earlier there with
  | nil => simp [Closed]
  | cons t tables ih =>
    obtain ⟨hown, hothers⟩ := List.forall_mem_cons.mp hsequences
    have hnext : ∀ table column, .column table column ∈ there ++ made (createPieces t) ↔
        ∃ t' ∈ earlier ++ [t], Has t' table column := by
      intro table column
      have hmade : .column table column ∈ ([t].map createPieces).flatMap made ↔
          ∃ t' ∈ [t], Has t' table column := mem_made_creates
      simp only [List.map_cons, List.map_nil, List.flatMap_cons, List.flatMap_nil,
        List.append_nil] at hmade
      rw [List.mem_append, hearlier, hmade]
      simp only [List.mem_append, or_and_right, exists_or]
    have hhead : (∀ ref ∈ used (createPieces t), ref ∈ there ∨ ref ∈ made (createPieces t)) ↔
        ∀ group ∈ t.uniqueTogether, ∀ n ∈ group, ∃ t' ∈ earlier ++ [t], Has t' t.name n := by
      constructor
      · intro h group hgroup n hn
        rw [← hnext, List.mem_append]
        exact h _ (mem_used_create.mpr (.inr ⟨group, hgroup, n, hn, rfl⟩))
      · intro h ref href
        rcases mem_used_create.mp href with ⟨seq, hseq, rfl⟩ | ⟨group, hgroup, n, hn, rfl⟩
        · exact .inl (hown seq hseq)
        · rw [← List.mem_append, hnext]
          exact h group hgroup n hn
    rw [List.map_cons, Closed, hhead,
      ih (fun t' ht' seq hseq => List.mem_append_left _ (hothers t' ht' seq hseq)) hnext,
      forall_places_cons]
    simp only [List.nil_append, List.append_assoc, List.cons_append]

theorem closed_indexes {tables : List TableDef} {there : List Ref}
    (h : ∀ t ∈ tables, ∀ ref ∈ made (createPieces t), ref ∈ there) :
    Closed there (tables.flatMap fun t => t.indexed.map (indexPieces t)) := by
  have hmakes : ∀ s ∈ tables.flatMap (fun t => t.indexed.map (indexPieces t)), made s = [] := by
    simp only [List.mem_flatMap, List.mem_map]
    rintro s ⟨t, _, c, _, rfl⟩
    rfl
  refine (closed_iff_of_makes hmakes).mpr fun s hs ref href => ?_
  obtain ⟨t, ht, hs⟩ := List.mem_flatMap.mp hs
  obtain ⟨c, hc, rfl⟩ := List.mem_map.mp hs
  refine h t ht ref (mem_made_create.mpr ?_)
  have href : ref ∈ [Ref.table t.name, .column t.name c.name] := href
  simp only [List.mem_cons, List.not_mem_nil, or_false] at href
  exact href.imp_right fun hcolumn => ⟨c, List.mem_of_mem_filter hc, hcolumn⟩

/-- The statements that add the foreign keys, if the tables are there. -/
theorem closed_foreignKeys {tables : List TableDef} {there : List Ref}
    (htables : ∀ t ∈ tables, ∀ ref ∈ made (createPieces t), ref ∈ there)
    (hcolumns : ∀ table column, .column table column ∈ there ↔
      ∃ t ∈ tables, Has t table column) :
    Closed there (tables.flatMap fun t => t.columns.filterMap fun c =>
      c.references.map (foreignKeyPieces t c)) ↔ Referenced tables := by
  have hmem {s : List Piece} : s ∈ (tables.flatMap fun t => t.columns.filterMap fun c =>
      c.references.map (foreignKeyPieces t c)) ↔
        ∃ t ∈ tables, ∃ c ∈ t.columns, ∃ target ∈ c.references,
          foreignKeyPieces t c target = s := by
    simp only [List.mem_flatMap, List.mem_filterMap, Option.map_eq_some_iff, Option.mem_def]
  have hused (t : TableDef) (c : ColumnDef) (target : String × String) :
      used (foreignKeyPieces t c target) = [.table t.name, .column t.name c.name,
        .table target.1, .column target.1 target.2] := rfl
  rw [closed_iff_of_makes fun s hs => by
    obtain ⟨t, _, c, _, target, _, rfl⟩ := hmem.mp hs
    rfl]
  constructor
  · intro h t ht c hc target htarget
    refine (hcolumns _ _).mp (h _ (hmem.mpr ⟨t, ht, c, hc, target, htarget, rfl⟩) _ ?_)
    simp [hused]
  · intro h s hs ref href
    obtain ⟨t, ht, c, hc, target, htarget, rfl⟩ := hmem.mp hs
    obtain ⟨t', ht', hname, hcolumn⟩ := h t ht c hc target htarget
    rw [hused] at href
    simp only [List.mem_cons, List.not_mem_nil, or_false] at href
    rcases href with rfl | rfl | rfl | rfl
    · exact htables t ht _ (mem_made_create.mpr (.inl rfl))
    · exact htables t ht _ (mem_made_create.mpr (.inr ⟨c, hc, rfl⟩))
    · exact htables t' ht' _ (mem_made_create.mpr (.inl (congrArg Ref.table hname.symm)))
    · exact (hcolumns _ _).mpr ⟨t', ht', hname, hcolumn⟩

/-- The statements of tables are closed exactly if their unique groups and their foreign keys
    name columns that there are. -/
theorem closed_pieces_iff (tables : List TableDef) :
    Closed [] (pieces tables) ↔ Grouped tables ∧ Referenced tables := by
  have hsequences : ((tables.flatMap TableDef.sequences).map sequencePieces).flatMap made =
      (tables.flatMap TableDef.sequences).map .sequence := by
    rw [List.flatMap_map, List.map_eq_flatMap]
    rfl
  have hthere : ∀ table column, .column table column ∈
      (tables.flatMap TableDef.sequences).map Ref.sequence ++
        (tables.map createPieces).flatMap made ↔ ∃ t ∈ tables, Has t table column := by
    intro table column
    rw [List.mem_append, mem_made_creates]
    simp
  have hmade : ∀ t ∈ tables, ∀ ref ∈ made (createPieces t), ref ∈
      (tables.flatMap TableDef.sequences).map Ref.sequence ++
        (tables.map createPieces).flatMap made := fun t ht ref href =>
    List.mem_append_right _ (List.mem_flatMap.mpr ⟨_, List.mem_map_of_mem ht, href⟩)
  have hindexes : (tables.flatMap fun t => t.indexed.map (indexPieces t)).flatMap made = [] := by
    simp only [List.flatMap_eq_nil_iff, List.mem_flatMap, List.mem_map]
    rintro s ⟨t, _, c, _, rfl⟩
    rfl
  have hfirst : Closed [] ((tables.flatMap TableDef.sequences).map sequencePieces) :=
    closed_of_uses fun s hs => by
      obtain ⟨name, _, rfl⟩ := List.mem_map.mp hs
      rfl
  have hnone : ∀ table column, Ref.column table column ∈
      (tables.flatMap TableDef.sequences).map .sequence ↔
        ∃ t ∈ ([] : List TableDef), Has t table column := by simp
  have hcreates : Closed ((tables.flatMap TableDef.sequences).map .sequence)
      (tables.map createPieces) ↔ Grouped tables :=
    closed_creates (fun t ht seq hseq =>
      List.mem_map_of_mem (List.mem_flatMap.mpr ⟨t, ht, hseq⟩)) hnone
  unfold pieces
  rw [closed_word, closed_append, closed_append, closed_append]
  simp only [List.nil_append, List.flatMap_append, hsequences, hindexes, List.append_nil]
  rw [closed_foreignKeys hmade hthere, hcreates]
  simp only [hfirst, closed_indexes hmade, true_and, and_true]

/-! ## Statements of declarations -/

variable {ds owners : Declarations} {d : ResourceDecl}

/-- The table of a resource that is not kept inside another one. -/
def ownTable (d : ResourceDecl) : TableDef :=
  ⟨d.name, d.tableName, d.fields.filterMap ColumnDef.ofDecl?, d.info.uniqueTogether⟩

theorem tables_eq {ts : List TableDef} (h : TableDef.ofDecls ds = .ok ts) :
    ts = (ds.filter (!·.isKid)).map ownTable := by
  rw [← List.forall₂_eq_eq_eq, List.forall₂_map_right_iff]
  exact (TableDef.ofDecls_made h).flip.imp fun t d hmade => (TableDef.ofDecl_ok hmade).2.2

/-- A resource that is not kept inside another one has its table. -/
theorem ownTable_mem {ts : List TableDef} (h : TableDef.ofDecls ds = .ok ts) (hd : d ∈ ds)
    (howns : d.isKid = false) : ownTable d ∈ ts := by
  rw [tables_eq h]
  exact List.mem_map_of_mem (List.mem_filter.mpr ⟨hd, by rw [howns]; rfl⟩)

theorem has_ownTable {table column : String} :
    Has (ownTable d) table column ↔
      d.tableName = table ∧ ∃ e ∈ d.fields, e.name = column ∧ e.sql.isSome = true := by
  unfold Has
  refine and_congr_right fun _ => ?_
  constructor
  · rintro ⟨c, hc, rfl⟩
    obtain ⟨e, he, hmade⟩ := List.mem_filterMap.mp hc
    obtain ⟨sql, hsql, rfl⟩ := Option.map_eq_some_iff.mp hmade
    exact ⟨e, he, rfl, Option.isSome_of_mem hsql⟩
  · rintro ⟨e, he, rfl, hstored⟩
    obtain ⟨c, hc, hname⟩ := ColumnDef.ofDecl?_stored hstored
    exact ⟨c, List.mem_filterMap.mpr ⟨e, he, hc⟩, hname⟩

/-- Every field of a unique group is stored by the resource, or by an earlier one in the same
    table. -/
def Stored (owners : Declarations) : Prop :=
  ∀ before d after, owners = before ++ d :: after →
    ∀ group ∈ d.info.uniqueTogether, ∀ n ∈ group, ∃ d' ∈ before ++ [d],
      d'.tableName = d.tableName ∧ ∃ e ∈ d'.fields, e.name = n ∧ e.sql.isSome = true

theorem grouped_iff : Grouped (owners.map ownTable) ↔ Stored owners := by
  constructor
  · intro h before d after hsplit group hgroup n hn
    obtain ⟨t, ht, hhas⟩ := h (before.map ownTable) (ownTable d) (after.map ownTable)
      (by rw [hsplit, List.map_append, List.map_cons]) group hgroup n hn
    have ht : t ∈ (before ++ [d]).map ownTable := by simpa using ht
    obtain ⟨d', hd', rfl⟩ := List.mem_map.mp ht
    exact ⟨d', hd', has_ownTable.mp hhas⟩
  · intro h before t after hsplit group hgroup n hn
    obtain ⟨first, rest, howners, rfl, hrest⟩ := List.map_eq_append_iff.mp hsplit
    obtain ⟨d, last, rfl, rfl, _⟩ := List.map_eq_cons_iff.mp hrest
    obtain ⟨d', hd', hstored⟩ := h first d last howners group hgroup n hn
    refine ⟨ownTable d', ?_, has_ownTable.mpr hstored⟩
    simpa using List.mem_map_of_mem (f := ownTable) hd'

/-- Foreign keys of checked declarations lead to columns. -/
theorem referenced_of_check (hcheck : ds.check = .ok ()) :
    Referenced ((ds.filter (!·.isKid)).map ownTable) := by
  intro t ht c hc target htarget
  obtain ⟨d, hd, rfl⟩ := List.mem_map.mp ht
  obtain ⟨e, he, hmade⟩ := List.mem_filterMap.mp hc
  obtain ⟨sql, _, rfl⟩ := Option.map_eq_some_iff.mp hmade
  have htarget : (if e.isForeignKey then e.target? else none) = some target := htarget
  split_ifs at htarget
  obtain ⟨⟨other, hother, column⟩, _⟩ :=
    Declarations.check_reference hcheck (List.mem_of_mem_filter hd) he htarget
  obtain ⟨hmem, hplain, hname⟩ := Declarations.byTable?_some hother
  have howns : other ∈ ds.filter (!·.isKid) := List.mem_filter.mpr ⟨hmem, by simpa using hplain⟩
  exact ⟨ownTable other, List.mem_map_of_mem howns, has_ownTable.mpr ⟨hname, column⟩⟩

/-- The statements that provision checked declarations, cut into pieces, use only what they and
    those before them make, exactly if the fields of all unique groups are stored. -/
theorem provision_closed_iff {g : Registry} (hg : ds.resolve = .ok g) :
    statements g.tables = (pieces g.tables).map spell ∧
      (Closed [] (pieces g.tables) ↔ Stored (ds.filter (!·.isKid))) := by
  obtain ⟨hcheck, htables, _⟩ := Compile.resolve_ok_iff.mp hg
  refine ⟨statements_eq g.tables, ?_⟩
  rw [closed_pieces_iff, tables_eq htables, grouped_iff]
  exact and_iff_left (referenced_of_check hcheck)

/-- Products, of which some fields are unique together; the preview is computed. -/
def products (group : List String) : ResourceDecl :=
  ⟨"Product", some "product",
    [.key "id", .plain "name" .string (some (.simple "text")), .plain "preview" .string none],
    { ResourceMeta.plain with route := some "product", uniqueTogether := [group] }⟩

theorem stored_products_iff {group : List String} :
    Stored [products group] ↔ ∀ n ∈ group, n = "id" ∨ n = "name" := by
  have hown (n : String) : (∃ e ∈ (products group).fields, e.name = n ∧ e.sql.isSome = true) ↔
      n = "id" ∨ n = "name" := by
    constructor
    · rintro ⟨e, he, rfl, hstored⟩
      rcases List.mem_cons.mp he with rfl | he
      · exact .inl rfl
      rcases List.mem_cons.mp he with rfl | he
      · exact .inr rfl
      obtain rfl := List.mem_singleton.mp he
      contradiction
    · rintro (rfl | rfl)
      · exact ⟨_, List.mem_cons_self, rfl, rfl⟩
      · exact ⟨_, List.mem_cons_of_mem _ List.mem_cons_self, rfl, rfl⟩
  unfold Stored
  rw [forall_places_cons, and_iff_left (by simp)]
  constructor
  · intro h n hn
    obtain ⟨d, hd, _, hstored⟩ := h group List.mem_cons_self n hn
    obtain rfl := List.mem_singleton.mp hd
    exact (hown n).mp hstored
  · intro h group' hgroup n hn
    obtain rfl := List.mem_singleton.mp hgroup
    exact ⟨_, List.mem_singleton_self _, rfl, (hown n).mpr (h n hn)⟩

/-- Names and keys are stored. -/
theorem products_closed :
    ∃ g, Declarations.resolve [products ["name", "id"]] = .ok g ∧
      Closed [] (pieces g.tables) := by
  obtain ⟨g, hg, _⟩ := Compile.exists_resolved [products ["name", "id"]] (fun _ => true)
    (by decide +kernel) (by decide +kernel)
  exact ⟨g, hg, (provision_closed_iff hg).2.mpr (stored_products_iff.mpr (by decide))⟩

/-- The table of products with a group that has the preview. -/
def previewText : String :=
  "CREATE TABLE IF NOT EXISTS \"product\" (\n  \"id\" int PRIMARY KEY,\n  \"name\" text,\n  " ++
    "UNIQUE (\"name\", \"preview\")\n)"

theorem previewText_eq : (ownTable (products ["name", "preview"])).createSql = previewText := by
  decide +kernel

/-- A group with the preview is taken as well, and names a column that no statement makes. -/
theorem preview_open :
    ∃ g, Declarations.resolve [products ["name", "preview"]] = .ok g ∧
      previewText ∈ statements g.tables ∧ ¬ Closed [] (pieces g.tables) := by
  obtain ⟨g, hg, _⟩ := Compile.exists_resolved [products ["name", "preview"]] (fun _ => true)
    (by decide +kernel) (by decide +kernel)
  have htables : g.tables = [ownTable (products ["name", "preview"])] :=
    tables_eq (Compile.resolve_ok_iff.mp hg).2.1
  refine ⟨g, hg, ?_⟩
  rw [htables, ← previewText_eq]
  refine ⟨mem_statements_create List.mem_cons_self, fun hclosed => ?_⟩
  have hgrouped : Grouped ([products ["name", "preview"]].map ownTable) :=
    ((closed_pieces_iff _).mp hclosed).1
  exact absurd (stored_products_iff.mp (grouped_iff.mp hgrouped)) (by decide)

end RowServe.Provision
