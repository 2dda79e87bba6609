import RowServe.Proofs.Sql.Tokens
import RowServe.Store.Cleanup

/-!
# What a clean-up spells

The quoted names and the placeholders in the statement that removes deleted keys from the
arrays of other tables. Its one placeholder is the first, once in every test of an array and
once in every new array.

Results:

* `spells_cleanup`: the tokens of the statement.
* `place_mem_cleanup`: the first placeholder is its only one.
* `name_mem_cleanup`: its names are those of the dependents.
-/

namespace RowServe

open Sql (Bare Closed Divides Spells Token closed_literal literal qualified quoted
  spells_literal spells_placeholder spells_qualified spells_quoted)

namespace DependentTable

variable {IsType : String → Prop} (t : DependentTable)

/-- The tokens of the test whether an array has a deleted key. -/
def hitTokens (column : String) : List Token := [.name column] ++ [.name column] ++ [.place 1]

/-- The tokens of a new array. -/
def assignmentTokens (column : String) : List Token :=
  [.name column] ++ [.name t.table, .name column] ++ [.place 1] ++ [.name t.table, .name column]

/-- The name of the table expression that updates the table. -/
def stageName : String := t.table ++ "_cleanup"

/-- The tokens of the update of a table. -/
def updateTokens : List Token :=
  [.name t.stageName] ++ [.name t.table] ++
    (t.places.flatMap fun p => t.assignmentTokens p.1) ++ [.name t.pk] ++
    (t.places.flatMap fun p => hitTokens p.1) ++ [.name t.table] ++ [.name t.table, .name t.pk]

/-- The tokens of the summary for a table. -/
def countTokens : List Token := t.places.flatMap fun _ => [.name t.stageName]

variable {t}

theorem bare_flag (i : Nat) : Bare (flag i) := Bare.append (by decide) (Sql.bare_repr i)

theorem spells_deletedKeys (hjsonb : IsType "jsonb") : Spells IsType deletedKeys [.place 1] := by
  have hplace : Spells IsType (Sql.Placeholder.render ⟨1, some "jsonb"⟩) [.place 1] :=
    spells_placeholder fun t ht => Option.some.inj ht ▸ hjsonb
  have hopen : Closed IsType "(SELECT jsonb_array_elements_text(" [] := Bare.closed (by decide)
  have hkeys := (hopen.spells_append hplace).word (w := "))") (by decide)
  have htext : deletedKeys = "(SELECT jsonb_array_elements_text(" ++
      Sql.Placeholder.render ⟨1, some "jsonb"⟩ ++ "))" := by decide +kernel
  rw [htext]
  exact hkeys.spells

theorem closed_array : Closed IsType ") = 'array' THEN EXISTS (SELECT 1 FROM " [] := by
  have htext : ") = 'array' THEN EXISTS (SELECT 1 FROM " =
      ") = " ++ literal "array" ++ " THEN EXISTS (SELECT 1 FROM " := by decide
  rw [htext]
  exact closed_literal (by decide) (by decide) "array"

theorem closed_notIn :
    Closed IsType ") AS e(elem) WHERE (e.elem #>> '\x7b\x7d') NOT IN " [] := by
  have htext : ") AS e(elem) WHERE (e.elem #>> '\x7b\x7d') NOT IN " =
      ") AS e(elem) WHERE (e.elem #>> " ++ literal "\x7b\x7d" ++ ") NOT IN " := by decide
  rw [htext]
  exact closed_literal (by decide) (by decide) "\x7b\x7d"

theorem closed_otherwise : Closed IsType "), '[]'::jsonb) ELSE " [] := by
  have htext : "), '[]'::jsonb) ELSE " = "), " ++ literal "[]" ++ "::jsonb) ELSE " := by decide
  rw [htext]
  exact closed_literal (by decide) (by decide) "[]"

theorem spells_hit (hjsonb : IsType "jsonb") (column : String) (i : Nat) :
    Spells IsType (hit column i) (hitTokens column) := by
  have hcolumn : Spells IsType ("src." ++ quoted column) [.name column] :=
    (Bare.closed (by decide)).spells_append (spells_quoted column)
  have hcase : Closed IsType "CASE WHEN jsonb_typeof(" [] := Bare.closed (by decide)
  have harray := (hcase.spells_append hcolumn).append closed_array (by decide)
  have helements := harray.word (w := "jsonb_array_elements_text(") (by decide)
  have hin := (helements.spells_append hcolumn).word (w := ") AS x(val) WHERE x.val IN ")
    (by decide)
  have hend := (hin.spells_append (spells_deletedKeys hjsonb)).word
    (w := ") ELSE false END AS ") (by decide)
  exact (hend.word (bare_flag i)).spells

theorem spells_assignment (hjsonb : IsType "jsonb") (t : DependentTable) (column : String)
    (i : Nat) : Spells IsType (t.assignment column i) (t.assignmentTokens column) := by
  have hset := (@spells_quoted IsType column).word (w := " = CASE WHEN h.") (by decide)
  have hflag := (hset.word (bare_flag i)).word
    (w := " THEN COALESCE((SELECT jsonb_agg(e.elem) FROM jsonb_array_elements(") (by decide)
  have helements := (hflag.spells_append (spells_qualified t.table column)).append closed_notIn
    (by decide)
  have hkeys := (helements.spells_append (spells_deletedKeys hjsonb)).append closed_otherwise
    (by decide)
  have helse := (hkeys.spells_append (spells_qualified t.table column)).word (w := " END")
    (by decide)
  exact helse.spells

theorem spells_flags (t : DependentTable) {w : String} (hw : Divides w) :
    Spells IsType (w.intercalate (t.places.map fun p => "h." ++ flag p.2)) [] := by
  have hopen : Closed IsType "h." [] := Bare.closed (by decide)
  have hflags := Spells.intercalate (l := t.places) (g := fun _ => []) hw fun p _ =>
    (hopen.word (bare_flag p.2)).spells
  rwa [List.flatMap_eq_nil_iff.mpr fun _ _ => rfl] at hflags

theorem spells_update (hjsonb : IsType "jsonb") (t : DependentTable) :
    Spells IsType t.update t.updateTokens := by
  have hstage : Spells IsType t.stage [.name t.stageName] := spells_quoted _
  have hupdate := (hstage.word (w := " AS (UPDATE ") (by decide)).spells_append
    (spells_quoted t.table)
  have hset := (hupdate.word (w := " SET ") (by decide)).spells_append
    (Spells.intercalate (l := t.places) (w := ", ") (by decide) fun p _ =>
      spells_assignment hjsonb t p.1 p.2)
  have hkey := (hset.word (w := " FROM (SELECT src.") (by decide)).spells_append
    (spells_quoted t.pk)
  have hhits := (hkey.word (w := " AS rid, ") (by decide)).spells_append
    (Spells.intercalate (l := t.places) (w := ", ") (by decide) fun p _ =>
      spells_hit hjsonb p.1 p.2)
  have hfrom := (hhits.word (w := " FROM ") (by decide)).spells_append (spells_quoted t.table)
  have hwhere := (hfrom.word (w := " AS src) AS h WHERE ") (by decide)).spells_append
    (spells_qualified t.table t.pk)
  have hany := (hwhere.word (w := " = h.rid AND (") (by decide)).spells_append
    (spells_flags t (w := " OR ") (by decide))
  rw [List.append_nil] at hany
  have hreturning := (hany.word (w := ") RETURNING ") (by decide)).spells_append
    (spells_flags t (w := ", ") (by decide))
  rw [List.append_nil] at hreturning
  exact (hreturning.word (w := ")") (by decide)).spells

theorem spells_count (e : DependentTable × String × Nat) :
    Spells IsType (literal (e.1.table ++ "." ++ e.2.1) ++ ", (SELECT count(*) FROM " ++
      e.1.stage ++ " WHERE " ++ flag e.2.2 ++ ")") [.name e.1.stageName] := by
  have hcount := (@spells_literal IsType (e.1.table ++ "." ++ e.2.1)).word
    (w := ", (SELECT count(*) FROM ") (by decide)
  have hstage := (hcount.spells_append (spells_quoted e.1.stageName)).word (w := " WHERE ")
    (by decide)
  exact ((hstage.word (bare_flag e.2.2)).word (w := ")") (by decide)).spells

/-- The summaries of all tables stand in one list. -/
theorem spells_counts (ts : List DependentTable) :
    Spells IsType (", ".intercalate (ts.flatMap counts)) (ts.flatMap countTokens) := by
  have hpairs := Spells.intercalate (w := ", ") (l := ts.flatMap fun t => t.places.map (t, ·))
    (by decide) fun e _ => @spells_count IsType e
  rw [List.map_flatMap, List.flatMap_assoc] at hpairs
  simp only [List.map_map, List.flatMap_map] at hpairs
  exact hpairs

end DependentTable

open DependentTable

/-- The tokens of the statement that removes deleted keys. -/
def cleanupTokens (ds : List Dependent) : List Token :=
  (ofList ds).flatMap updateTokens ++ (ofList ds).flatMap countTokens

theorem spells_cleanup {IsType : String → Prop} (hjsonb : IsType "jsonb") {ds : List Dependent}
    {text : String} (h : cleanupStatement ds = some text) :
    Spells IsType text (cleanupTokens ds) := by
  unfold cleanupStatement at h
  split_ifs at h
  have hwith : Closed IsType "WITH " [] := Bare.closed (by decide)
  have hupdates := (hwith.spells_append (Spells.intercalate (l := ofList ds) (w := ", ")
    (by decide) fun t _ => spells_update hjsonb t)).word (w := " SELECT json_build_object(")
    (by decide)
  have hsummary := (hupdates.spells_append (spells_counts (ofList ds))).word (w := ")") (by decide)
  rw [← Option.some.inj h]
  exact hsummary.spells

/-! ## Names and placeholders -/

namespace DependentTable

/-- What a table of dependent columns stands for is declared among the dependents. -/
def From (ds : List Dependent) (t : DependentTable) : Prop :=
  (∃ d ∈ ds, t.table = d.table ∧ t.pk = d.pk) ∧ ∀ c ∈ t.columns, ∃ d ∈ ds, c = d.column

theorem from_add {ds : List Dependent} {d : Dependent} (hd : d ∈ ds) {ts : List DependentTable}
    (h : ∀ t ∈ ts, t.From ds) : ∀ t ∈ add d ts, t.From ds := by
  induction ts with
  | nil =>
    intro t ht
    rw [List.mem_singleton.mp ht]
    exact ⟨⟨d, hd, rfl, rfl⟩, by simpa using ⟨d, hd, rfl⟩⟩
  | cons u ts ih =>
    obtain ⟨hu, hts⟩ := List.forall_mem_cons.mp h
    have hgrown : From ds { u with columns := u.columns ++ [d.column] } := by
      refine ⟨hu.1, fun c hc => ?_⟩
      rcases List.mem_append.mp hc with hc | hc
      · exact hu.2 c hc
      · exact ⟨d, hd, List.mem_singleton.mp hc⟩
    unfold add
    split_ifs
    · exact List.forall_mem_cons.mpr ⟨hu, hts⟩
    · exact List.forall_mem_cons.mpr ⟨hgrown, hts⟩
    · exact List.forall_mem_cons.mpr ⟨hu, ih hts⟩

theorem from_ofList (ds : List Dependent) : ∀ t ∈ ofList ds, t.From ds := by
  have hfold : ∀ (es : List Dependent) (ts : List DependentTable), (∀ e ∈ es, e ∈ ds) →
      (∀ t ∈ ts, t.From ds) → ∀ t ∈ es.foldl (fun ts d => add d ts) ts, t.From ds := by
    intro es
    induction es with
    | nil => exact fun ts _ h => h
    | cons e es ih =>
      intro ts hes h
      obtain ⟨he, hes⟩ := List.forall_mem_cons.mp hes
      exact ih _ hes (from_add he h)
  exact hfold ds [] (fun _ h => h) fun _ h => absurd h List.not_mem_nil

end DependentTable

theorem places_columns (t : DependentTable) : t.places.map (·.1) = t.columns :=
  List.zipIdx_map_fst 0 t.columns

/-- The first placeholder is the only one. -/
theorem place_mem_cleanup {ds : List Dependent} (h : ds ≠ []) (k : Nat) :
    .place k ∈ cleanupTokens ds ↔ k = 1 := by
  unfold cleanupTokens
  constructor
  · intro hk
    rcases List.mem_append.mp hk with hk | hk
    · obtain ⟨t, _, hk⟩ := List.mem_flatMap.mp hk
      simp only [updateTokens, assignmentTokens, hitTokens, List.mem_append, List.mem_flatMap,
        List.mem_cons, List.not_mem_nil, reduceCtorEq, false_or, or_false, Token.place.injEq] at hk
      rcases hk with ⟨_, _, hk⟩ | ⟨_, _, hk⟩
      · exact hk
      · exact hk
    · obtain ⟨t, _, hk⟩ := List.mem_flatMap.mp hk
      simp [countTokens] at hk
  · rintro rfl
    obtain ⟨d, hd⟩ := List.exists_mem_of_ne_nil ds h
    obtain ⟨t, ht, _, hcolumn⟩ := mem_ofList hd
    rw [← places_columns] at hcolumn
    obtain ⟨p, hp, _⟩ := List.mem_map.mp hcolumn
    have hplace : .place 1 ∈ t.places.flatMap fun p => t.assignmentTokens p.1 :=
      List.mem_flatMap.mpr ⟨p, hp, by simp [assignmentTokens]⟩
    refine List.mem_append_left _ (List.mem_flatMap.mpr ⟨t, ht, ?_⟩)
    unfold updateTokens
    simp only [List.mem_append]
    tauto

/-- The names of a clean-up are those of the dependent tables, their keys and their dependent
    columns, and those of the table expressions. -/
theorem name_mem_cleanup {ds : List Dependent} {n : String} (h : .name n ∈ cleanupTokens ds) :
    ∃ d ∈ ds, n ∈ [d.table, d.pk, d.column, d.table ++ "_cleanup"] := by
  have hname : ∃ t ∈ ofList ds,
      n = t.table ∨ n = t.pk ∨ n ∈ t.columns ∨ n = t.table ++ "_cleanup" := by
    unfold cleanupTokens at h
    rcases List.mem_append.mp h with h | h
    · obtain ⟨t, ht, h⟩ := List.mem_flatMap.mp h
      have hcolumn : ∀ p ∈ t.places, p.1 ∈ t.columns := fun p hp =>
        places_columns t ▸ List.mem_map_of_mem hp
      refine ⟨t, ht, ?_⟩
      simp only [updateTokens, assignmentTokens, hitTokens, stageName, List.mem_append,
        List.mem_flatMap, List.mem_cons, List.not_mem_nil, reduceCtorEq, or_false,
        Token.name.injEq] at h
      grind
    · obtain ⟨t, ht, h⟩ := List.mem_flatMap.mp h
      obtain ⟨_, _, h⟩ := List.mem_flatMap.mp h
      exact ⟨t, ht, .inr (.inr (.inr (Token.name.inj (List.mem_singleton.mp h))))⟩
  obtain ⟨t, ht, hname⟩ := hname
  obtain ⟨⟨d, hd, htable, hpk⟩, hcolumns⟩ := from_ofList ds t ht
  rw [htable, hpk] at hname
  rcases hname with rfl | rfl | hname | rfl
  · exact ⟨d, hd, by simp⟩
  · exact ⟨d, hd, by simp⟩
  · obtain ⟨e, he, rfl⟩ := hcolumns n hname
    exact ⟨e, he, by simp⟩
  · exact ⟨d, hd, by simp⟩

end RowServe
