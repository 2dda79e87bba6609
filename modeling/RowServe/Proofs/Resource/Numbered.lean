import RowServe.Proofs.Resource.Removal
import RowServe.Proofs.Resource.Spelling
import RowServe.Proofs.Store.Cleanup

/-!
# Numbered placeholders

The placeholders that stand in the text of a statement, outside of quotes and of the names
of types, and the parameters that are sent with it. A parameter is bound once for each name
and then used, wherever the text ends up: twice in a list, behind the assignments in an
update. A brace in the name of the table or of its key is read as a slot, and what is filled
in there opens and closes quotes at the wrong places.

Results:

* `places_numbered`: the placeholders are the numbers from one to that of the parameters.
* `misplaced`: a table whose name takes a condition in, so that another number is read.
-/

namespace RowServe

open Sql (Bare ReadAs Reads Spells Token)
open Sql.Template (Plain)

/-! ## Placeholders of the parts -/

namespace Sql

/-- The positions of the placeholders among some tokens. -/
def positions (ts : List Token) : List Nat :=
  ts.filterMap fun
    | .place k => some k
    | .name _ => none

theorem mem_positions {ts : List Token} {k : Nat} : k ∈ positions ts ↔ .place k ∈ ts := by
  unfold positions
  rw [List.mem_filterMap]
  constructor
  · rintro ⟨t, ht, hk⟩
    cases t with
    | place l => exact Option.some.inj hk ▸ ht
    | name s => contradiction
  · exact fun h => ⟨_, h, rfl⟩

@[simp] theorem positions_nil : positions [] = [] := rfl

@[simp] theorem positions_name (s : String) (ts : List Token) :
    positions (.name s :: ts) = positions ts := rfl

@[simp] theorem positions_place (k : Nat) (ts : List Token) :
    positions (.place k :: ts) = k :: positions ts := rfl

@[simp] theorem positions_append (ts us : List Token) :
    positions (ts ++ us) = positions ts ++ positions us :=
  List.filterMap_append

@[simp] theorem positions_flatMap {α : Type} (as : List α) (f : α → List Token) :
    positions (as.flatMap f) = as.flatMap fun a => positions (f a) := by
  induction as with
  | nil => rfl
  | cons a as ih => rw [List.flatMap_cons, positions_append, ih, List.flatMap_cons]

@[simp] theorem positions_operand (x : Operand) : positions x.tokens = [] := by cases x <;> rfl

@[simp] theorem positions_shown (x : Shown) : positions x.tokens = [] := by
  cases x <;> simp [Shown.tokens]

@[simp] theorem positions_comparison (c : Comparison) :
    positions c.tokens = c.placeholders.map (·.2.position) := by
  cases c <;> simp [Comparison.tokens, Comparison.placeholders]

@[simp] theorem positions_condition (c : Condition) :
    positions c.tokens = c.placeholders.map (·.2.position) := by
  cases c <;> simp [Condition.tokens, Condition.placeholders, List.map_flatMap]

@[simp] theorem positions_assigned (v : Assigned) :
    positions v.tokens = v.placeholders.map (·.position) := by
  cases v <;> simp [Assigned.tokens, Assigned.placeholders]

end Sql

open Sql (positions)

@[simp] theorem positions_join (j : Join) : positions j.tokens = [] := by simp [Join.tokens]

/-- The placeholders of conditions are those of the entries they are written for. -/
theorem positions_clause (w : WhereClause) :
    positions w.tokens = (w.conjuncts.flatMap Conjunct.written).map (·.2.position) := by
  simp [WhereClause.tokens, Conjunct.written, List.map_flatMap, List.flatMap_map, Function.comp_def]

theorem positions_assignments (as : List Sql.Assignment) :
    positions (as.flatMap Sql.Assignment.tokens) =
      (as.flatMap Sql.Assignment.written).map (·.2.position) := by
  simp [Sql.Assignment.tokens, Sql.Assignment.written, List.map_flatMap, Function.comp_def]

/-! ## Statements -/

namespace Resource

variable (r : Resource) {k : Nat}

@[simp] theorem positions_shownTokens (selection : Option (List Selected)) (list : Bool) :
    positions (r.shownTokens selection list) = [] := by
  simp [shownTokens]

@[simp] theorem positions_joinTokens (active : List String) :
    positions (r.joinTokens active) = [] := by
  simp [joinTokens]

@[simp] theorem positions_orderTokens (names : List String) :
    positions (r.orderTokens names) = [] := by
  simp [orderTokens]

/-- The statements with a filter have the placeholders of their entries. -/
theorem place_mem_call (call : Call) :
    .place k ∈ call.tokens r ↔ ∃ e ∈ call.written r, e.2.position = k := by
  rw [← Sql.mem_positions, ← List.mem_map]
  unfold Call.written
  rw [List.map_append, ← positions_clause, ← positions_assignments]
  cases call with
  | get filter selection => simp [Call.tokens, Call.assignments]
  | list filter page selection => simp [Call.tokens, Call.assignments]
  | update op filter payload => simp [Call.tokens, or_comm]
  | delete deep filter =>
    cases deep <;> simp [Call.tokens, Call.assignments]

/-- The placeholders of an insert are those of its values. -/
theorem place_mem_insert (payload : Object) :
    .place k ∈ r.insertTokens payload ↔
      ∃ e ∈ (r.insertedValues payload).flatMap Sql.Assignment.written, e.2.position = k := by
  rw [← Sql.mem_positions, ← List.mem_map]
  simp [insertTokens, Sql.Assignment.written, List.map_flatMap, Function.comp_def]

/-- The places of some uses are numbered from one, without gaps. -/
theorem placed_iff (us : List Use) (k : Nat) :
    (∃ e ∈ us.map (Use.placed (Filter.bindAll [] us)), e.2.position = k) ↔
      1 ≤ k ∧ k ≤ (Filter.bindAll [] us).params.length := by
  have hlength : (Filter.bindAll [] us).params.length = (Filter.bindAll [] us).length :=
    List.length_map _
  rw [hlength, Filter.bindAll, ← Sql.Binds.place_addAll_iff, ← Filter.bindAll]
  simp only [List.mem_map, exists_exists_and_eq_and]
  rfl

/-! ## Statements that are run -/

/-- The statements of a resource, whatever they are asked for. -/
inductive Runs (r : Resource) (cmd : Sql.Command) : Prop where
  | read (filter : Object) (selection : Option (List Selected))
      (h : (r.read filter selection).Performs (StoreAction.run cmd))
  | list (filter : Object) (page : PageSpec) (selection : Option (List Selected))
      (h : (r.list filter page selection).Performs (StoreAction.run cmd))
  | create (payload : Object) (h : (r.create payload).Performs (StoreAction.run cmd))
  | update (op : Operation) (filter payload : Object)
      (h : (r.update op filter payload).Performs (StoreAction.run cmd))
  | remove (filter : Object) (deep : Bool)
      (h : (r.remove filter deep).Performs (StoreAction.run cmd))
  | prune (keys : List Json) (h : (r.prune keys).Performs (StoreAction.run cmd))

variable {r} {cmd : Sql.Command}

/-- What is run is a statement with a filter, an insert, or a clean-up. -/
theorem Runs.command (h : r.Runs cmd) :
    (∃ call : Call, call.command r = .ok cmd) ∨ (∃ payload, r.insertCommand payload = .ok cmd) ∨
      ∃ keys, r.cleanupCommand? keys = some cmd := by
  cases h with
  | read filter selection h => exact .inl ⟨.get filter selection, read_performs.mp h⟩
  | list filter page selection h => exact .inl ⟨.list filter page selection, list_performs.mp h⟩
  | create payload h => exact .inr (.inl ⟨payload, create_performs.mp h⟩)
  | update op filter payload h => exact .inl ⟨.update op filter payload, update_performs.mp h⟩
  | prune keys h => exact .inr (.inr ⟨keys, prune_performs h⟩)
  | remove filter deep h =>
    rcases remove_performs h with ⟨t, ht, hcommand⟩ | hkeys
    · simp only [List.mem_cons, List.not_mem_nil, or_false] at ht
      rcases ht with rfl | rfl
      · exact .inl ⟨.delete false filter, hcommand⟩
      · exact .inl ⟨.delete true filter, hcommand⟩
    · exact .inr (.inr hkeys)

/-- The placeholders of a text, read with the names of types passed over, are the numbers from
    one to that of the parameters. -/
def Numbered (IsType : String → Prop) (cmd : Sql.Command) : Prop :=
  ∃ ts, ReadAs IsType cmd.text ts ∧ ∀ k, .place k ∈ ts ↔ 1 ≤ k ∧ k ≤ cmd.params.length

/-- The clean-up of a resource is the one of its dependents. -/
theorem cleanup_eq {ds : Declarations} {g : Registry} (hg : ds.resolve = .ok g)
    (hr : r ∈ g.resources) : r.templates.cleanup = cleanupStatement r.dependents := by
  obtain ⟨d, _, hd⟩ := Compile.mem_resolved hg hr
  obtain ⟨p, templates, _, htemplates, rfl⟩ := Compile.resource_ok_iff.mp hd
  have hcleanup := (Statement.templates_ok_iff.mp htemplates).cleanup
  exact hcleanup

theorem cleanup_some {ds : Declarations} {g : Registry} (hg : ds.resolve = .ok g)
    (hr : r ∈ g.resources) {keys : List Json} (h : r.cleanupCommand? keys = some cmd) :
    cleanupStatement r.dependents = some cmd.text ∧ r.dependents ≠ [] ∧
      cmd.params = [.json (.arr keys)] := by
  unfold cleanupCommand? at h
  rw [cleanup_eq hg hr] at h
  obtain ⟨text, htext, rfl⟩ := Option.map_eq_some_iff.mp h
  refine ⟨htext, fun hnone => ?_, rfl⟩
  rw [cleanupStatement_eq_none.mpr hnone] at htext
  contradiction

/-- Every statement of a resource with plain names has as many placeholders as parameters,
    numbered in order. -/
theorem places_numbered {ds : Declarations} {g : Registry} (hg : ds.resolve = .ok g)
    (hr : r ∈ g.resources) (htable : Plain r.table) (hkey : Plain r.pk) (h : r.Runs cmd) :
    Numbered r.IsType cmd := by
  rcases h.command with ⟨call, hcall⟩ | ⟨payload, hinsert⟩ | ⟨keys, hcleanup⟩
  · refine ⟨_, (Call.spells hg hr htable hkey hcall).readAs, fun k => ?_⟩
    rw [place_mem_call, Call.written_eq, placed_iff, (Call.rendered hcall).params]
  · refine ⟨_, (spells_insert hg hr htable hkey hinsert).readAs, fun k => ?_⟩
    rw [place_mem_insert, insertedValues, Change.written_insertionsAt, placed_iff,
      insertCommand_params hinsert]
  · obtain ⟨htext, hne, hparams⟩ := cleanup_some hg hr hcleanup
    refine ⟨_, (spells_cleanup (.inl rfl) htext).readAs, fun k => ?_⟩
    rw [place_mem_cleanup hne, hparams, List.length_singleton]
    omega

/-- The update of products by the name of their producer has two placeholders. -/
theorem places_numbered_shop :
    ∃ g, Declarations.shop.resolve = .ok g ∧ ∃ r ∈ g.resources, Plain r.table ∧ Plain r.pk ∧
      ∃ cmd, r.Runs cmd ∧ cmd.params.length = 2 ∧ Numbered r.IsType cmd := by
  obtain ⟨g, hg, r, hr, hP⟩ := Compile.exists_resolved Declarations.shop
    (fun r => Plain r.table ∧ Plain r.pk ∧
      (Call.reassign.command r).toOption.map (·.params.length) = some 2)
    (by decide +kernel) (by decide +kernel)
  obtain ⟨htable, hkey, hparams⟩ := of_decide_eq_true hP
  obtain ⟨cmd, hcmd, hlength⟩ := Option.map_eq_some_iff.mp hparams
  have hrun : r.Runs cmd := .update _ _ _ (update_performs.mpr (toOption_eq_some.mp hcmd))
  exact ⟨g, hg, r, hr, htable, hkey, cmd, hrun, hlength, places_numbered hg hr htable hkey hrun⟩

/-! ## Braces in names -/

/-- A table whose name holds the slot of conditions. -/
def slotted : Declarations := [.plain "T" "t\x7bwhere\x7d" [.key "$9"]]

/-- The row with the key one. -/
def firstRow : Object := [("$9", .ofInt 1)]

/-- What is left of the delete once the condition stands in the name of the table. -/
def slottedText : String :=
  "WITH rows AS (DELETE FROM \"t\"t\x7bwhere\x7d\".\"$9\" = $1::int\"" ++
    " WHERE \"t\x7bwhere\x7d\".\"$9\" = $1::int RETURNING 1) SELECT count(*) FROM rows"

/-- Between the quotes of the condition and those of the name there is another placeholder. -/
theorem reads_slotted {IsType : String → Prop} (hint : IsType "int") :
    Reads IsType slottedText.toList
      [.name "t", .name ".", .place 9, .name " = $1::int", .name "t\x7bwhere\x7d", .name "$9",
        .place 1] := by
  have hplace : Spells IsType (Sql.Placeholder.render ⟨1, some "int"⟩) [.place 1] :=
    Sql.spells_placeholder fun t ht => Option.some.inj ht ▸ hint
  have hopen : Sql.Closed IsType " WHERE " [] := Bare.closed (by decide)
  have hcolumn := hopen.spells_append (Sql.spells_qualified "t\x7bwhere\x7d" "$9")
  have hwhere := (((hcolumn.word (w := " = ") (by decide)).spells_append hplace).word
    (w := " RETURNING 1) SELECT count(*) FROM rows") (by decide)).spells.reads
  have hcompared := Reads.name (s := " = $1::int") (by decide) hwhere
  have hshifted := Reads.place (k := 9) (Sql.quoted_no_digit " = $1::int" _) hcompared
  have hfront : Sql.Closed IsType ("WITH rows AS (DELETE FROM " ++ Sql.quoted "t" ++
      "t\x7bwhere\x7d") [.name "t"] := Sql.closed_quoted (by decide) (by decide) "t"
  have hdelete := (hfront.spells_append (Sql.spells_quoted ".")) _ _ (Sql.fresh_place _) hshifted
  convert hdelete using 1
  · decide +kernel
  · rfl

/-- The delete by key has one parameter, and however it is read there is a ninth placeholder
    outside of quotes. -/
theorem misplaced :
    ∃ g, slotted.resolve = .ok g ∧ ∃ r ∈ g.resources, ∃ cmd, r.Runs cmd ∧
      cmd.params.length = 1 ∧ (∀ ts, Reads r.IsType cmd.text.toList ts → .place 9 ∈ ts) ∧
      ¬ Numbered r.IsType cmd := by
  obtain ⟨g, hg, r, hr, hP⟩ := Compile.exists_compiled slotted
    (fun r => r.dependents = [] ∧ r.fields.map (·.cast) = [some "int"] ∧ r.joins.isEmpty = true ∧
      (r.deleteCommand r.templates.delete firstRow).toOption =
        some ⟨slottedText, [.text (some "1")]⟩)
    (by decide +kernel)
  obtain ⟨halone, hcasts, hjoins, hcmd⟩ := of_decide_eq_true hP
  have htypes : ∀ t, r.IsType t → Bare t := by
    rintro t (rfl | ⟨f, hf, ht⟩ | ⟨j, hj, _⟩)
    · decide
    · have hcast := List.mem_map_of_mem (f := (·.cast)) hf
      rw [hcasts, List.mem_singleton, ht] at hcast
      rw [Option.some.inj hcast]
      decide
    · rw [List.isEmpty_iff.mp hjoins] at hj
      exact absurd hj List.not_mem_nil
  have hint : r.IsType "int" := by
    obtain ⟨f, hf, ht⟩ := List.mem_map.mp (hcasts ▸ List.mem_singleton_self (some "int"))
    exact .inr (.inl ⟨f, hf, ht⟩)
  have hnine : ∀ ts, Reads r.IsType slottedText.toList ts → .place 9 ∈ ts := by
    intro ts hts
    rw [hts.unique htypes (reads_slotted hint)]
    decide
  have hrun : r.Runs ⟨slottedText, [.text (some "1")]⟩ :=
    .remove firstRow false (remove_runs halone (toOption_eq_some.mp hcmd))
  refine ⟨g, hg, r, hr, _, hrun, rfl, hnine, ?_⟩
  rintro ⟨ts, ⟨hts, _⟩, hplaces⟩
  exact absurd ((hplaces 9).mp (hnine ts hts)).2 (by decide)

end Resource

end RowServe
