import Mathlib.Data.List.Nodup
import RowServe.Proofs.Template.Filled

/-!
# Filling in stages

A template may be filled in several stages, and what one stage puts in is text to all later
ones: it is never searched for slots. So stages add up, a statement is what stands between the
slots and what was given for them, and the slots that are left open are those of the template
that nothing was given for.

Results:

* `gaps_fill`: filling takes away the given slots and adds none.
* `missing_openSlots`: the open slots of a filled template, in the order of first appearance.
* `Missing.unique`: there is only one such list.
* `fill_in_stages`: stages add up; when a render succeeds, what it says, and what is missing
  otherwise.
-/

namespace RowServe.Sql.Template

/-! ## Open slots -/

/-- The slots that occur, as often as they do. -/
def gaps (segments : List Segment) : List Slot :=
  segments.filterMap fun
    | .gap slot => some slot
    | .text _ => none

theorem mem_gaps {segments : List Segment} {slot : Slot} :
    slot ∈ gaps segments ↔ .gap slot ∈ segments := by
  rw [← List.mem_eraseDups]
  refine (has_iff_mem_open ⟨segments⟩ slot).symm.trans ?_
  rw [has, List.contains_iff_mem]

theorem gaps_consMerged (s : Segment) (rest : List Segment) :
    gaps (consMerged s rest) = gaps [s] ++ gaps rest := by
  cases s with
  | gap slot => rfl
  | text s =>
    cases rest with
    | nil => rfl
    | cons t rest => cases t <;> rfl

theorem gaps_segment_fill (values : Values) (s : Segment) :
    gaps [Segment.fill values s] = (gaps [s]).filter fun slot => (values slot).isNone := by
  cases s with
  | text s => rfl
  | gap slot =>
    unfold Segment.fill
    dsimp only
    cases hslot : values slot with
    | none => simp [gaps, hslot]
    | some text => simp [gaps, hslot]

/-- Filling takes away the slots that something is given for. No text brings in a new one. -/
theorem gaps_fill (segments : List Segment) (values : Values) :
    gaps (fill ⟨segments⟩ values).segments =
      (gaps segments).filter fun slot => (values slot).isNone := by
  induction segments with
  | nil => rfl
  | cons s rest ih =>
    have hfill : (fill ⟨s :: rest⟩ values).segments =
        consMerged (Segment.fill values s) (fill ⟨rest⟩ values).segments := rfl
    have hcons : gaps (s :: rest) = gaps [s] ++ gaps rest :=
      List.filterMap_append (l := [s])
    rw [hfill, gaps_consMerged, gaps_segment_fill, ih, hcons, List.filter_append]

/-- The slots of a template that nothing is given for: each of them once, in the order in which
    they first appear. -/
structure Missing (t : Template) (values : Values) (slots : List Slot) : Prop where
  mem {slot : Slot} : slot ∈ slots ↔ .gap slot ∈ t.segments ∧ values slot = none
  ordered : slots.Pairwise fun s s' => t.segments.idxOf (.gap s) < t.segments.idxOf (.gap s')

/-- What is left of the slots when repeats are dropped is in the order of first appearance. -/
theorem ordered_eraseDups (segments : List Segment) (p : Slot → Bool) :
    ((gaps segments).filter p).eraseDups.Pairwise fun s s' =>
      segments.idxOf (.gap s) < segments.idxOf (.gap s') := by
  -- Behind a slot that is kept, and behind one that is not, only the other slots are looked at.
  induction segments generalizing p with
  | nil => exact .nil
  | cons s rest ih =>
    have hbehind {q : Slot → Bool} (hq : ∀ slot, q slot = true → s ≠ .gap slot) :
        ((gaps rest).filter q).eraseDups.Pairwise fun s' s'' =>
          (s :: rest).idxOf (.gap s') < (s :: rest).idxOf (.gap s'') := by
      have hne {slot : Slot} (hslot : slot ∈ ((gaps rest).filter q).eraseDups) :
          s ≠ .gap slot := hq slot (List.mem_filter.mp (List.mem_eraseDups.mp hslot)).2
      refine (ih q).imp_of_mem fun hs' hs'' hlt => ?_
      rw [List.idxOf_cons_ne _ (hne hs'), List.idxOf_cons_ne _ (hne hs'')]
      exact Nat.succ_lt_succ hlt
    cases s with
    | text s => exact hbehind fun _ _ h => by contradiction
    | gap slot =>
      show ((slot :: gaps rest).filter p).eraseDups.Pairwise _
      by_cases hslot : p slot = true
      · rw [List.filter_cons_of_pos hslot, List.eraseDups_cons, List.filter_filter]
        have hother : ∀ s', (!s' == slot && p s') = true → Segment.gap slot ≠ .gap s' := by
          rintro s' hs' heq
          simp [Segment.gap.inj heq] at hs'
        refine List.pairwise_cons.mpr ⟨fun s' hs' => ?_, hbehind hother⟩
        have hne := hother s' (List.mem_filter.mp (List.mem_eraseDups.mp hs')).2
        rw [List.idxOf_cons_self, List.idxOf_cons_ne _ hne]
        exact Nat.succ_pos _
      · rw [List.filter_cons_of_neg hslot]
        refine hbehind fun s' hs' heq => hslot ?_
        rw [Segment.gap.inj heq]
        exact hs'

/-- The open slots of a filled template. -/
theorem missing_openSlots (t : Template) (values : Values) :
    Missing t values (t.fill values).openSlots := by
  obtain ⟨segments⟩ := t
  have hopen : (fill ⟨segments⟩ values).openSlots =
      ((gaps segments).filter fun slot => (values slot).isNone).eraseDups :=
    congrArg List.eraseDups (gaps_fill segments values)
  rw [hopen]
  refine ⟨fun {slot} => ?_, ordered_eraseDups segments _⟩
  rw [List.mem_eraseDups, List.mem_filter, mem_gaps, Option.isNone_iff_eq_none]

namespace Missing

variable {t : Template} {values : Values} {slots others : List Slot}

theorem nodup (h : Missing t values slots) : slots.Nodup :=
  h.ordered.imp fun hlt heq => absurd (heq ▸ hlt) (Nat.lt_irrefl _)

/-- There is one list of the missing slots. -/
theorem unique (h : Missing t values slots) (h' : Missing t values others) : slots = others := by
  have hperm : slots.Perm others :=
    (List.perm_ext_iff_of_nodup h.nodup h'.nodup).mpr fun _ => h.mem.trans h'.mem.symm
  exact hperm.eq_of_pairwise (fun _ _ _ _ hlt hgt => absurd hlt (Nat.lt_asymm hgt))
    h.ordered h'.ordered

end Missing

/-! ## Statements -/

/-- Something is given for every slot. -/
def Complete (t : Template) (values : Values) : Prop :=
  ∀ slot, .gap slot ∈ t.segments → values slot ≠ none

/-- A literal as it stands, or the text that is given for a slot. -/
def Segment.given (values : Values) : Segment → String
  | .text s => s
  | .gap slot => (values slot).getD ""

/-- The literals and the given texts, one after the other. -/
def statement (t : Template) (values : Values) : String :=
  String.join (t.segments.map (Segment.given values))

theorem openSlots_eq_nil_iff (t : Template) (values : Values) :
    (t.fill values).openSlots = [] ↔ Complete t values := by
  rw [List.eq_nil_iff_forall_not_mem]
  refine forall_congr' fun slot => ?_
  rw [(missing_openSlots t values).mem, not_and]

/-- A filled template without open slots shows what was given. -/
theorem display_complete {t : Template} {values : Values} (h : Complete t values) :
    (t.fill values).display = statement t values := by
  rw [display_fill, filledText, statement]
  refine congrArg String.join (List.map_congr_left fun s hs => ?_)
  cases s with
  | text s => rfl
  | gap slot =>
    obtain ⟨text, htext⟩ := Option.ne_none_iff_exists'.mp (h slot hs)
    unfold Segment.filled Segment.fill Segment.given
    dsimp only
    rw [htext]
    rfl

theorem render_complete {t : Template} {values : Values} (h : Complete t values) :
    t.render values = .ok (statement t values) := by
  unfold render
  dsimp only
  rw [(openSlots_eq_nil_iff t values).mpr h, display_complete h]

theorem render_missing {t : Template} {values : Values} {slots : List Slot}
    (h : Missing t values slots) (hne : slots ≠ []) :
    t.render values = .error (.unfilled (slots.map Slot.name)) := by
  obtain rfl := h.unique (missing_openSlots t values)
  unfold render
  dsimp only
  split
  · rename_i hopen
    exact absurd hopen hne
  · rfl

/-- Every template is complete, or some slots are missing. -/
theorem complete_or_missing (t : Template) (values : Values) :
    Complete t values ∨ ∃ slots, slots ≠ [] ∧ Missing t values slots := by
  by_cases hopen : (t.fill values).openSlots = []
  · exact .inl ((openSlots_eq_nil_iff t values).mp hopen)
  · exact .inr ⟨_, hopen, missing_openSlots t values⟩

/-- Two stages of filling are one, in which the first stage wins, and leave the slots open that
    it gave nothing for. A render succeeds exactly if something is given for every slot, and then
    says the literals and the given texts as they stand; otherwise its error names the missing
    slots. -/
theorem fill_in_stages (t : Template) (values : Values) :
    (∀ second, (t.fill values).fill second = t.fill (values.before second)) ∧
      Missing t values (t.fill values).openSlots ∧
      (∀ text, t.render values = .ok text ↔ Complete t values ∧ text = statement t values) ∧
      ∀ e, t.render values = .error e ↔
        ∃ slots, slots ≠ [] ∧ Missing t values slots ∧ e = .unfilled (slots.map Slot.name) := by
  refine ⟨fill_fill t values, missing_openSlots t values, ?_⟩
  rcases complete_or_missing t values with hcomplete | ⟨slots, hne, hmissing⟩
  · have hnone {slots : List Slot} (hmissing : Missing t values slots) : slots = [] := by
      rw [← (openSlots_eq_nil_iff t values).mpr hcomplete]
      exact hmissing.unique (missing_openSlots t values)
    rw [render_complete hcomplete]
    refine ⟨fun text => ?_, fun e => iff_of_false (fun h => by contradiction) ?_⟩
    · rw [and_iff_right hcomplete, Except.ok.injEq, eq_comm]
    · rintro ⟨slots, hne, hmissing, _⟩
      exact hne (hnone hmissing)
  · rw [render_missing hmissing hne]
    refine ⟨fun text => iff_of_false (fun h => by contradiction) ?_, fun e => ?_⟩
    · rintro ⟨hcomplete, _⟩
      obtain ⟨slot, hslot⟩ := List.exists_mem_of_ne_nil slots hne
      obtain ⟨hgap, hnone⟩ := hmissing.mem.mp hslot
      exact hcomplete slot hgap hnone
    · rw [Except.error.injEq]
      constructor
      · rintro rfl
        exact ⟨slots, hne, hmissing, rfl⟩
      · rintro ⟨others, _, hothers, rfl⟩
        rw [hmissing.unique hothers]

end RowServe.Sql.Template
