import RowServe.Proofs.Sql.Tokens
import RowServe.Resource.Statement

/-!
# Filled templates

The text of a statement is the text of its template with every slot filled, in however
many stages the slots were filled. If the texts between the slots end what is filled in,
the statement says what the texts and the slots say, one after the other.

Results:

* `fill_fill`: two stages of filling are one.
* `render_fill`: so a render does not see how a template was filled.
* `render_eq`: a rendered statement, segment by segment.
* `exists_render`: a statement is rendered once something is given for every slot.
* `Spoken.spells`: what a filled template says.
-/

namespace RowServe.Sql.Template

/-- A segment with its slot filled, as text. -/
def Segment.filled (values : Values) (s : Segment) : String :=
  Segment.display (Segment.fill values s)

/-- The segments with their slots filled, as one text. -/
def filledText (segments : List Segment) (values : Values) : String :=
  String.join (segments.map (Segment.filled values))

/-! ## Stages of filling -/

/-- The values of two stages. A slot that the first stage fills is gone before the second. -/
def Values.before (first second : Values) : Values := fun slot => (first slot).or (second slot)

theorem set_empty_before (values : Values) (slot : Slot) (text : String) :
    (Values.empty.set slot text).before values = values.set slot text := by
  funext s
  unfold Values.before Values.set Values.empty
  split_ifs <;> rfl

theorem consMerged_text (s t : String) (segments : List Segment) :
    consMerged (.text s) (consMerged (.text t) segments) =
      consMerged (.text (s ++ t)) segments := by
  cases segments with
  | nil => rfl
  | cons u rest =>
    cases u with
    | gap slot => rfl
    | text u =>
      show Segment.text (s ++ (t ++ u)) :: rest = Segment.text (s ++ t ++ u) :: rest
      rw [String.append_assoc]

theorem segment_fill_fill (first second : Values) (s : Segment) :
    Segment.fill second (Segment.fill first s) = Segment.fill (first.before second) s := by
  cases s with
  | text s => rfl
  | gap slot =>
    unfold Segment.fill Values.before
    dsimp only
    cases first slot with
    | none => rfl
    | some text => rfl

/-- A segment in front is filled like the ones behind it, merged with them or not. -/
theorem fill_consMerged (values : Values) (s : Segment) (rest : List Segment) :
    (fill ⟨consMerged s rest⟩ values).segments =
      consMerged (Segment.fill values s) (fill ⟨rest⟩ values).segments := by
  cases s with
  | gap slot => rfl
  | text s =>
    cases rest with
    | nil => rfl
    | cons t rest =>
      cases t with
      | gap slot => rfl
      | text t => exact (consMerged_text s t (fill ⟨rest⟩ values).segments).symm

/-- Two stages are one. -/
theorem fill_fill (t : Template) (first second : Values) :
    (t.fill first).fill second = t.fill (first.before second) := by
  obtain ⟨segments⟩ := t
  have hsegments : ((fill ⟨segments⟩ first).fill second).segments =
      (fill ⟨segments⟩ (first.before second)).segments := by
    induction segments with
    | nil => rfl
    | cons s rest ih =>
      have hcons (values : Values) : (fill ⟨s :: rest⟩ values).segments =
          consMerged (Segment.fill values s) (fill ⟨rest⟩ values).segments := rfl
      have hfirst : fill ⟨s :: rest⟩ first =
          ⟨consMerged (Segment.fill first s) (fill ⟨rest⟩ first).segments⟩ := rfl
      rw [hfirst, fill_consMerged, segment_fill_fill, hcons]
      exact congrArg (consMerged (Segment.fill (first.before second) s)) ih
  exact congrArg Template.mk hsegments

/-- A render does not see in which stages a template was filled. -/
theorem render_fill (t : Template) (first second : Values) :
    (t.fill first).render second = t.render (first.before second) := by
  unfold render
  rw [fill_fill]

/-! ## Rendered statements -/

theorem display_consMerged (s : Segment) (rest : List Segment) :
    display ⟨consMerged s rest⟩ = Segment.display s ++ display ⟨rest⟩ := by
  unfold display
  cases s with
  | gap slot => exact String.join_cons
  | text a =>
    cases rest with
    | nil => exact String.join_cons
    | cons t rest =>
      cases t with
      | gap slot => exact String.join_cons
      | text b =>
        show String.join ((a ++ b) :: rest.map Segment.display) =
          a ++ String.join (b :: rest.map Segment.display)
        rw [String.join_cons, String.join_cons, String.append_assoc]

/-- Texts that are merged while slots are filled stand side by side as before. -/
theorem display_fill (t : Template) (values : Values) :
    (t.fill values).display = filledText t.segments values := by
  obtain ⟨segments⟩ := t
  unfold fill filledText
  dsimp only
  induction segments with
  | nil => rfl
  | cons s rest ih =>
    rw [List.foldr_cons, display_consMerged, ih, List.map_cons, String.join_cons]
    rfl

theorem render_eq {t : Template} {values : Values} {text : String}
    (h : t.render values = .ok text) : text = filledText t.segments values := by
  unfold render at h
  dsimp only at h
  split at h
  · rw [← Except.ok.inj h, display_fill]
  · contradiction

theorem gap_mem_consMerged {slot : Slot} {s : Segment} {rest : List Segment} :
    .gap slot ∈ consMerged s rest ↔ .gap slot = s ∨ .gap slot ∈ rest := by
  cases s with
  | gap other => exact List.mem_cons
  | text a =>
    cases rest with
    | nil => exact List.mem_cons
    | cons t rest =>
      cases t with
      | gap other => exact List.mem_cons
      | text b => simp [consMerged]

/-- A slot stays open if nothing is given for it. -/
theorem gap_mem_fill {t : Template} {values : Values} {slot : Slot} :
    .gap slot ∈ (t.fill values).segments ↔ .gap slot ∈ t.segments ∧ values slot = none := by
  have hfill (s : Segment) :
      .gap slot = Segment.fill values s ↔ .gap slot = s ∧ values slot = none := by
    cases s with
    | text s => simp [Segment.fill]
    | gap other =>
      unfold Segment.fill
      dsimp only
      cases hother : values other with
      | none =>
        refine (and_iff_left_of_imp fun h => ?_).symm
        rw [Segment.gap.inj h, hother]
      | some s =>
        refine iff_of_false (fun h => by contradiction) fun ⟨h, hnone⟩ => ?_
        rw [Segment.gap.inj h, hother] at hnone
        contradiction
  obtain ⟨segments⟩ := t
  unfold fill
  dsimp only
  induction segments with
  | nil => simp
  | cons s rest ih =>
    rw [List.foldr_cons, List.mem_cons, or_and_right]
    exact gap_mem_consMerged.trans (or_congr (hfill s) ih)

/-- A statement is rendered if something is given for every slot. -/
theorem exists_render (t : Template) (values : Values) :
    (∃ text, t.render values = .ok text) ↔ ∀ slot, t.has slot = true → values slot ≠ none := by
  have hopen : (t.fill values).openSlots = [] ↔
      ∀ slot, t.has slot = true → values slot ≠ none := by
    rw [List.eq_nil_iff_forall_not_mem]
    refine forall_congr' fun slot => ?_
    rw [← has_iff_mem_open, has, List.contains_iff_mem, gap_mem_fill, not_and, has,
      List.contains_iff_mem]
  rw [← hopen]
  unfold render
  dsimp only
  cases (t.fill values).openSlots with
  | nil => exact iff_of_true ⟨_, rfl⟩ rfl
  | cons slot slots => simp

/-- What is shown may be filled in before the other slots. -/
theorem render_withSelect (t : Template) (select : String) (values : Values) :
    (Statement.withSelect t select).render values = t.render (values.set .select select) := by
  unfold Statement.withSelect
  rw [render_fill, set_empty_before]

/-! ## What a filled template says -/

/-- The slot is filled with a text that says the tokens. -/
def Fills (IsType : String → Prop) (values : Values) (slot : Slot) (ts : List Token) : Prop :=
  ∃ text, values slot = some text ∧ Spells IsType text ts

/-- Every slot is filled with a phrase and followed by a text that ends it, and these are
    the tokens of the texts and the phrases. -/
inductive Spoken (IsType : String → Prop) (values : Values) :
    List Segment → List Token → Prop
  | last {s : String} {ts : List Token} (hs : Spells IsType s ts) :
      Spoken IsType values [.text s] ts
  | text {s : String} {rest : List Segment} {ts us : List Token} (hs : Closed IsType s ts)
      (h : Spoken IsType values rest us) : Spoken IsType values (.text s :: rest) (ts ++ us)
  | slot {slot : Slot} {s : String} {rest : List Segment} {ts us : List Token}
      (hslot : Fills IsType values slot ts) (hbegin : Begins s)
      (h : Spoken IsType values (.text s :: rest) us) :
      Spoken IsType values (.gap slot :: .text s :: rest) (ts ++ us)

namespace Spoken

variable {IsType : String → Prop} {values : Values} {segments rest : List Segment}
  {ts us : List Token} {s : String} {slot : Slot}

theorem filledText_cons (s : Segment) (rest : List Segment) (values : Values) :
    filledText (s :: rest) values = Segment.filled values s ++ filledText rest values :=
  String.join_cons

theorem spells (h : Spoken IsType values segments ts) :
    Spells IsType (filledText segments values) ts := by
  induction h with
  | @last s ts hs =>
    rw [filledText_cons]
    exact String.append_empty.symm ▸ hs
  | text hs _ ih => exact filledText_cons _ _ values ▸ hs.spells_append ih
  | @slot slot s rest ts us hslot hbegin _ ih =>
    obtain ⟨v, hv, hspells⟩ := hslot
    have hfilled : Segment.filled values (.gap slot) = v := by
      simp [Segment.filled, Segment.fill, hv, Segment.display]
    have hnext : Begins (filledText (.text s :: rest) values) :=
      filledText_cons (.text s) rest values ▸ hbegin.append _
    rw [filledText_cons, hfilled]
    exact hspells.spells_append ih hnext

theorem word (hs : Bare s) (h : Spoken IsType values rest us) :
    Spoken IsType values (.text s :: rest) us := .text hs.closed h

theorem slot_word (hslot : Fills IsType values slot ts) (hs : Divides s)
    (h : Spoken IsType values rest us) :
    Spoken IsType values (.gap slot :: .text s :: rest) (ts ++ us) := .slot hslot hs.2 (h.word hs.1)

end Spoken

end RowServe.Sql.Template
