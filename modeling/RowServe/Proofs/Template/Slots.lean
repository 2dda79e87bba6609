import RowServe.Proofs.Template.Filled
import RowServe.Proofs.Template.Verbatim
import RowServe.Proofs.Text.Trim

/-!
# Slots of a source

What a slot is filled with is part of the statement only if the slot is there. A name in front
of a slot may hold braces of its own, but a reader that comes to a slot behind a character that
is no brace either reads it, or stands in a name that no slot has.

Results:

* `mem_of_read`: a slot behind a character that is no brace is read.
* `filled_of_read`: the text around such a slot is part of the statement as it stands.
* `has_of_parse`: a slot behind a literal that ends with no brace is a slot of the template.
-/

namespace RowServe.Sql.Template

/-! ## Reading a slot -/

theorem mem_trim {c : Char} (hc : Text.isBlank c = false) {s : String} (h : c ∈ s.toList) :
    c ∈ (Text.trim s).toList := by
  rw [Text.trim, String.toList_ofList]
  rw [← List.count_pos_iff] at h ⊢
  rwa [Text.count_trimList hc]

/-- No slot has an opening brace in its name. -/
theorem slotNamed_brace {name : List Char} (h : '\x7b' ∈ name) (slot : Slot) :
    slotNamed name ≠ .ok slot := by
  intro hslot
  unfold slotNamed at hslot
  dsimp only at hslot
  split at hslot
  · rename_i found hfound
    have hname : found.name = Text.trim (String.ofList name.reverse) := by
      simpa using List.find?_some hfound
    have hbrace : '\x7b' ∈ found.name.toList := by
      rw [hname]
      refine mem_trim (by decide) ?_
      rw [String.toList_ofList]
      exact List.mem_reverse.mpr h
    obtain ⟨_, _, _, hplain⟩ := name_plain found
    exact (hplain _ hbrace).1 rfl
  · contradiction

section Reading

variable {byte : Nat} {pos : Position} {chars rest : List Char}
  {segments : List Segment} {slot : Slot}

theorem mem_of_gap (h : readFrom byte .text chars (Segment.source (.gap slot) ++ rest) =
    .ok segments) : .gap slot ∈ segments := by
  rw [readFrom_gap] at h
  obtain ⟨others, _, h⟩ := bind_eq_ok.mp h
  rw [← Except.ok.inj h]
  exact List.mem_append_right _ List.mem_cons_self

/-- The name that is being read would go on with the slot. -/
theorem slot_in_name {start : Nat} {name literal : List Char}
    (hliteral : ∀ c ∈ literal, isBrace c = false)
    (h : readFrom byte (.slot start name) chars (literal ++ (Segment.source (.gap slot) ++ rest)) =
      .ok segments) : False := by
  obtain ⟨_, _, _, hplain⟩ := name_plain slot
  have hclose : ∀ c ∈ literal ++ '\x7b' :: slot.name.toList, c ≠ '\x7d' := by
    intro c hc
    rcases List.mem_append.mp hc with hc | hc
    · rintro rfl
      exact absurd (hliteral _ hc) (by decide)
    · rcases List.mem_cons.mp hc with rfl | hc
      · decide
      · exact (hplain c hc).2
  have hsource : literal ++ (Segment.source (.gap slot) ++ rest) =
      (literal ++ '\x7b' :: slot.name.toList) ++ '\x7d' :: rest := by
    simp [Segment.source]
  rw [hsource, readFrom_name _ _ _ _ _ _ hclose] at h
  obtain ⟨found, hfound, _⟩ := bind_eq_ok.mp h
  exact slotNamed_brace (by simp) found hfound

/-- Behind a character that is no brace the reader stands in the text or in a name. -/
theorem step_plain (byte : Nat) (pos : Position) (chars : List Char) {c : Char}
    (hc : isBrace c = false) :
    step byte pos chars c = .more .text (c :: chars) ∨
      ∃ start name, step byte pos chars c = .more (.slot start name) chars := by
  simp only [isBrace, Bool.or_eq_false_iff, decide_eq_false_iff_not] at hc
  obtain ⟨hopen, hclose⟩ := hc
  cases pos with
  | text => exact .inl (by rw [step, plainStep, if_neg hopen, if_neg hclose])
  | closed => exact .inl (by rw [step, if_neg hclose, plainStep, if_neg hopen, if_neg hclose])
  | opened start => exact .inr ⟨_, _, by rw [step, if_neg hopen, slotStep, if_neg hclose]⟩
  | slot start name => exact .inr ⟨_, _, by rw [step, slotStep, if_neg hclose]⟩

/-- A slot behind a character that is no brace is read, wherever the reader stood before. -/
theorem mem_of_read {front : List Char} {c : Char} (hc : isBrace c = false)
    (h : readFrom byte pos chars (front ++ c :: (Segment.source (.gap slot) ++ rest)) =
      .ok segments) : .gap slot ∈ segments := by
  induction front generalizing byte pos chars segments with
  | nil =>
    rw [List.nil_append, readFrom] at h
    obtain hstep | ⟨start, name, hstep⟩ := step_plain byte pos chars hc
    · rw [hstep] at h
      exact mem_of_gap h
    · rw [hstep] at h
      exact (slot_in_name (fun _ => List.not_mem_nil.elim) h).elim
  | cons d front ih =>
    rw [List.cons_append, readFrom] at h
    cases hstep : step byte pos chars d with
    | more after text =>
      rw [hstep] at h
      exact ih h
    | gap name =>
      rw [hstep] at h
      obtain ⟨found, _, h⟩ := bind_eq_ok.mp h
      obtain ⟨others, hothers, h⟩ := bind_eq_ok.mp h
      rw [← Except.ok.inj h]
      exact List.mem_append_right _ (List.mem_cons_of_mem _ (ih hothers))

/-- A character is added to the text or left out of it. -/
theorem step_more {after : Position} {text : List Char} {c : Char}
    (h : step byte pos chars c = .more after text) : text = chars ∨ text = c :: chars := by
  unfold step plainStep slotStep at h
  split at h
  all_goals
    split_ifs at h
    all_goals
      obtain ⟨-, rfl⟩ := Step.more.inj h
      simp

/-! ## The text around a slot -/

variable (values : Values)

theorem filledText_textSegment (chars : List Char) (segments : List Segment) (values : Values) :
    filledText (textSegment chars ++ segments) values =
      String.ofList chars.reverse ++ filledText segments values := by
  unfold textSegment
  cases chars with
  | nil => simp [filledText]
  | cons c chars =>
    simp only [List.isEmpty_cons, Bool.false_eq_true, if_false, List.cons_append, List.nil_append]
    exact Spoken.filledText_cons _ _ values

/-- Behind a slot the reading starts anew. -/
theorem filled_of_gap (h : readFrom byte .text chars (Segment.source (.gap slot) ++ rest) =
    .ok segments) :
    ∃ start others, readFrom start .text [] rest = .ok others ∧
      filledText segments values = String.ofList chars.reverse ++
        Segment.filled values (.gap slot) ++ filledText others values := by
  rw [readFrom_gap] at h
  obtain ⟨others, hothers, h⟩ := bind_eq_ok.mp h
  refine ⟨_, others, hothers, ?_⟩
  rw [← Except.ok.inj h, filledText_textSegment, Spoken.filledText_cons, String.append_assoc]

/-- So it does behind a literal without braces and a slot. -/
theorem filled_of_literal {s : String} (hs : Plain s)
    (h : readFrom byte .text chars (s.toList ++ (Segment.source (.gap slot) ++ rest)) =
      .ok segments) :
    ∃ start others, readFrom start .text [] rest = .ok others ∧
      filledText segments values = String.ofList chars.reverse ++ s ++
        Segment.filled values (.gap slot) ++ filledText others values := by
  have hopen : (Segment.source (.gap slot) ++ rest).head? ≠ some '\x7d' := by
    simp [Segment.source]
  rw [readsAs_clean hs.verbatim.clean _ _ _ hopen] at h
  obtain ⟨start, others, hothers, hfilled⟩ := filled_of_gap values h
  refine ⟨start, others, hothers, hfilled.trans ?_⟩
  simp

/-- What is collected stays in front, a literal without braces and the slot behind it are read
    as they stand wherever the reader stood before, and behind the slot the reading starts
    anew. -/
theorem filled_of_read {front : List Char} {s : String} (hs : Plain s) (hne : s ≠ "")
    (h : readFrom byte pos chars (front ++ (s.toList ++ (Segment.source (.gap slot) ++ rest))) =
      .ok segments) :
    ∃ before start others, readFrom start .text [] rest = .ok others ∧
      filledText segments values = String.ofList chars.reverse ++ before ++ s ++
        Segment.filled values (.gap slot) ++ filledText others values := by
  induction front generalizing byte pos chars segments with
  | nil =>
    obtain ⟨c, cs, hcs⟩ := List.exists_cons_of_ne_nil (mt String.toList_eq_nil_iff.mp hne)
    unfold Plain at hs
    rw [hcs] at hs
    obtain ⟨hc, hrest⟩ := List.forall_mem_cons.mp hs
    rw [List.nil_append, hcs, List.cons_append, readFrom] at h
    obtain hstep | ⟨start, name, hstep⟩ := step_plain byte pos chars hc
    · rw [hstep] at h
      have hplain : Plain (String.ofList cs) := by simpa [Plain] using hrest
      rw [← String.toList_ofList (l := cs)] at h
      obtain ⟨start, others, hothers, hfilled⟩ := filled_of_literal values hplain h
      refine ⟨"", start, others, hothers, hfilled.trans ?_⟩
      have hsplit : String.ofList (c :: chars).reverse ++ String.ofList cs =
          String.ofList chars.reverse ++ "" ++ s := by
        apply String.ext
        simp [hcs]
      rw [hsplit]
    · rw [hstep] at h
      exact (slot_in_name hrest h).elim
  | cons d front ih =>
    rw [List.cons_append, readFrom] at h
    cases hstep : step byte pos chars d with
    | more after text =>
      rw [hstep] at h
      obtain ⟨before, start, others, hothers, hfilled⟩ := ih h
      rcases step_more hstep with rfl | rfl
      · exact ⟨before, start, others, hothers, hfilled⟩
      · refine ⟨String.singleton d ++ before, start, others, hothers, hfilled.trans ?_⟩
        apply String.ext
        simp
    | gap name =>
      rw [hstep] at h
      obtain ⟨found, _, h⟩ := bind_eq_ok.mp h
      obtain ⟨read, hread, h⟩ := bind_eq_ok.mp h
      obtain ⟨before, start, others, hothers, hfilled⟩ := ih hread
      refine ⟨Segment.filled values (.gap found) ++ before, start, others, hothers, ?_⟩
      rw [← Except.ok.inj h, filledText_textSegment, Spoken.filledText_cons, hfilled]
      simp [String.append_assoc]

/-- The characters of segments that are shown as they stand. -/
def shownChars (segments : List Segment) : List Char :=
  segments.flatMap fun s => (Segment.display s).toList

theorem read_of_parse {t : Template} (h : parse (display ⟨segments⟩) = .ok t) :
    readFrom 0 .text [] (shownChars segments) = .ok t.segments := by
  unfold parse at h
  split at h
  · rename_i read hread
    rw [display_toList] at hread
    rw [← Except.ok.inj h]
    exact hread
  · contradiction

theorem shownChars_pair (s : String) (slot : Slot) (rest : List Segment) :
    shownChars (.text s :: .gap slot :: rest) =
      s.toList ++ (Segment.source (.gap slot) ++ shownChars rest) := by
  unfold shownChars
  rw [List.flatMap_cons, List.flatMap_cons, source_gap]
  rfl

variable {s : String} {others : List Segment}

theorem filled_next (hs : Plain s)
    (h : readFrom byte .text [] (shownChars (.text s :: .gap slot :: others)) = .ok segments) :
    ∃ start read, readFrom start .text [] (shownChars others) = .ok read ∧
      filledText segments values = s ++ (Segment.filled values (.gap slot) ++
        filledText read values) := by
  rw [shownChars_pair] at h
  obtain ⟨start, read, hread, hfilled⟩ := filled_of_literal values hs h
  refine ⟨start, read, hread, hfilled.trans ?_⟩
  simp [String.append_assoc]

/-- A literal in front stays in front, whatever is read between it and the next literal that is
    behind a name. -/
theorem filled_behind {t : String} (ht : Plain t) (hs : Plain s) (hne : s ≠ "")
    {front : List Char} (hfront : front.head? = some '"')
    (h : readFrom byte .text []
      (t.toList ++ (front ++ shownChars (.text s :: .gap slot :: others))) = .ok segments) :
    ∃ before start read, readFrom start .text [] (shownChars others) = .ok read ∧
      filledText segments values = t ++ (before ++ (s ++ (Segment.filled values (.gap slot) ++
        filledText read values))) := by
  have hopen : (front ++ shownChars (.text s :: .gap slot :: others)).head? ≠ some '\x7d' := by
    rw [List.head?_append, hfront]
    simp
  rw [readsAs_clean ht.verbatim.clean _ _ _ hopen, shownChars_pair] at h
  obtain ⟨before, start, read, hread, hfilled⟩ := filled_of_read values hs hne h
  refine ⟨before, start, read, hread, hfilled.trans ?_⟩
  simp [String.append_assoc]

/-- What is collected stays in front. -/
theorem filled_collected {cs : List Char} (h : readFrom byte pos chars cs = .ok segments) :
    ∃ back, filledText segments values = String.ofList chars.reverse ++ back := by
  induction cs generalizing byte pos chars with
  | nil =>
    have hread : segments = textSegment chars := by
      cases pos with
      | text | closed => exact (Except.ok.inj h).symm
      | opened start | slot start name => contradiction
    refine ⟨"", ?_⟩
    rw [hread, ← List.append_nil (textSegment chars), filledText_textSegment]
    rfl
  | cons c cs ih =>
    rw [readFrom] at h
    cases hstep : step byte pos chars c with
    | more after text =>
      rw [hstep] at h
      obtain ⟨back, hfilled⟩ := ih h
      rcases step_more hstep with rfl | rfl
      · exact ⟨back, hfilled⟩
      · refine ⟨String.singleton c ++ back, hfilled.trans ?_⟩
        apply String.ext
        simp
    | gap name =>
      rw [hstep] at h
      obtain ⟨found, _, h⟩ := bind_eq_ok.mp h
      obtain ⟨read, _, h⟩ := bind_eq_ok.mp h
      rw [← Except.ok.inj h, filledText_textSegment]
      exact ⟨_, rfl⟩

/-- So does a literal without braces, whatever stands behind it. -/
theorem filled_literal (hs : Plain s) {back : List Char} (hback : back.head? ≠ some '\x7d')
    (h : readFrom byte .text [] (s.toList ++ back) = .ok segments) :
    ∃ rest, filledText segments values = s ++ rest := by
  rw [readsAs_clean hs.verbatim.clean _ _ _ hback] at h
  obtain ⟨rest, hfilled⟩ := filled_collected values h
  refine ⟨rest, hfilled.trans ?_⟩
  simp

end Reading

/-! ## Sources -/

/-- The last character of the text is no brace. -/
def EndsPlain (s : String) : Prop := ∃ front c, s.toList = front ++ [c] ∧ isBrace c = false

theorem EndsPlain.append (s : String) {t : String} (h : EndsPlain t) : EndsPlain (s ++ t) := by
  obtain ⟨front, c, ht, hc⟩ := h
  refine ⟨s.toList ++ front, c, ?_, hc⟩
  rw [String.toList_append, ht, List.append_assoc]

/-- A slot behind a literal that ends with no brace is a slot of the template, whatever braces
    stand before. -/
theorem has_of_parse {segments : List Segment} {slot : Slot} {s : String} {t : Template}
    (h : parse (display ⟨segments⟩) = .ok t) (hpair : [.text s, .gap slot] <:+: segments)
    (hs : EndsPlain s) : t.has slot = true := by
  obtain ⟨front, back, rfl⟩ := hpair
  obtain ⟨cs, c, hcs, hc⟩ := hs
  let chars := fun s : Segment => (Segment.display s).toList
  have hlist : (display ⟨front ++ [.text s, .gap slot] ++ back⟩).toList =
      (front.flatMap chars ++ cs) ++ c :: (Segment.source (.gap slot) ++ back.flatMap chars) := by
    have htext : (Segment.display (.text s)).toList = cs ++ [c] := hcs
    rw [display_toList, List.flatMap_append, List.flatMap_append, List.flatMap_cons, htext,
      List.flatMap_singleton, source_gap]
    simp [chars]
  unfold parse at h
  split at h
  · rename_i read hread
    rw [hlist] at hread
    rw [← Except.ok.inj h]
    exact List.contains_iff_mem.mpr (mem_of_read hc hread)
  · contradiction

/-! ## What stands in a slot -/

/-- The template has the slot, and this is what the slot is filled with. -/
def Puts (t : Template) (values : Values) (slot : Slot) (text : String) : Prop :=
  t.has slot = true ∧ values slot = some text

end RowServe.Sql.Template
