import RowServe.Proofs.Results
import RowServe.Proofs.Template.Source

/-!
# Sources that are shown as they stand

A template is its own source if its literals have no opening brace and no closing brace twice
in a row. Nothing else is: what is read never gets longer, every brace that is dropped makes it
shorter, and an opening brace that is not dropped begins a slot.

Results:

* `parse_display`: a template whose literals are verbatim is its own source.
* `length_read`: a template is at most as long as its source.
* `exact_of_parse`: a source that its template shows as it stands has no braces but those of
  the slots of the template.
* `verbatim_of_exact`: a quoted name that is shown as it stands in two templates without a
  common slot is verbatim.
-/

namespace RowServe.Sql.Template

/-! ## Verbatim texts -/

/-- No opening brace, and no closing brace twice in a row. -/
def Clean : List Char → Prop
  | [] => True
  | c :: cs => c ≠ '\x7b' ∧ (c = '\x7d' → cs.head? ≠ some '\x7d') ∧ Clean cs

instance decidableClean : (cs : List Char) → Decidable (Clean cs)
  | [] => isTrue trivial
  | c :: cs =>
    have := decidableClean cs
    inferInstanceAs (Decidable (c ≠ '\x7b' ∧ (c = '\x7d' → cs.head? ≠ some '\x7d') ∧ Clean cs))

/-- The text stands for itself in a source. -/
structure Verbatim (s : String) : Prop where
  clean : Clean s.toList

instance (s : String) : Decidable (Verbatim s) :=
  decidable_of_iff (Clean s.toList) ⟨fun h => ⟨h⟩, fun h => h.clean⟩

theorem Clean.append {cs ds : List Char} (hcs : Clean cs) (hds : Clean ds)
    (hnext : ds.head? ≠ some '\x7d') : Clean (cs ++ ds) := by
  induction cs with
  | nil => exact hds
  | cons c cs ih =>
    obtain ⟨hopen, hclose, hrest⟩ := hcs
    refine ⟨hopen, fun hc => ?_, ih hrest⟩
    cases cs with
    | nil => exact hnext
    | cons d cs => exact hclose hc

theorem Verbatim.append {s t : String} (hs : Verbatim s) (ht : Verbatim t)
    (hnext : t.toList.head? ≠ some '\x7d') : Verbatim (s ++ t) := by
  refine ⟨?_⟩
  rw [String.toList_append]
  exact hs.clean.append ht.clean hnext

theorem Plain.verbatim {s : String} (h : Plain s) : Verbatim s := by
  unfold Plain at h
  refine ⟨?_⟩
  generalize s.toList = cs at h
  induction cs with
  | nil => trivial
  | cons c cs ih =>
    obtain ⟨hc, hcs⟩ := List.forall_mem_cons.mp h
    simp only [isBrace, Bool.or_eq_false_iff, decide_eq_false_iff_not] at hc
    exact ⟨hc.1, fun hclose => absurd hclose hc.2, ih hcs⟩

theorem Verbatim.append_plain {s t : String} (hs : Verbatim s) (ht : Plain t) :
    Verbatim (s ++ t) := by
  refine hs.append ht.verbatim fun hhead => ?_
  exact absurd (ht _ (List.mem_of_mem_head? hhead)) (by decide)

/-- Doubled quotes are no braces, and they stand where the single ones stood. -/
theorem clean_doubled (cs : List Char) : Clean (doubled '"' cs ++ ['"']) ↔ Clean cs := by
  induction cs with
  | nil => simp [doubled, Clean]
  | cons c cs ih =>
    have hhead : (doubled '"' cs ++ ['"']).head? = some '\x7d' ↔ cs.head? = some '\x7d' := by
      cases cs with
      | nil => simp [doubled]
      | cons d cs =>
        by_cases hd : d = '"'
        · simp [doubled, hd]
        · simp [doubled, hd]
    by_cases hc : c = '"'
    · have hdoubled : doubled '"' (c :: cs) ++ ['"'] = '"' :: '"' :: (doubled '"' cs ++ ['"']) := by
        simp [doubled, hc]
      rw [hdoubled]
      simp [Clean, hc, ih]
    · have hkept : doubled '"' (c :: cs) ++ ['"'] = c :: (doubled '"' cs ++ ['"']) := by
        simp [doubled, hc]
      rw [hkept]
      simp only [Clean, ih, ne_eq, hhead]

theorem Verbatim.quoted {s : String} (h : Verbatim s) : Verbatim (quoted s) := by
  refine ⟨?_⟩
  unfold Sql.quoted enclosed
  rw [String.toList_ofList]
  simpa [Clean, clean_doubled] using h.clean

theorem head_quoted (s : String) : (quoted s).toList.head? ≠ some '\x7d' := by
  unfold quoted enclosed
  rw [String.toList_ofList]
  simp

/-- Every literal is verbatim. -/
def VerbatimText : List Segment → Prop
  | [] => True
  | .gap _ :: rest => VerbatimText rest
  | .text s :: rest => Verbatim s ∧ VerbatimText rest

theorem VerbatimText.of_mem {segments : List Segment} (h : VerbatimText segments) {s : String}
    (hs : .text s ∈ segments) : Verbatim s := by
  induction segments with
  | nil => exact absurd hs List.not_mem_nil
  | cons t rest ih =>
    cases t with
    | gap slot => exact ih h (by simpa using hs)
    | text t =>
      rcases List.mem_cons.mp hs with hs | hs
      · exact Segment.text.inj hs ▸ h.1
      · exact ih h.2 hs

/-! ## Reading verbatim texts -/

/-- Behind a closing brace the reader is in plain text unless another one follows. -/
theorem readFrom_closed {byte : Nat} {chars cs : List Char} (h : cs.head? ≠ some '\x7d') :
    readFrom byte .closed chars cs = readFrom byte .text chars cs := by
  cases cs with
  | nil => rfl
  | cons c cs =>
    have hc : c ≠ '\x7d' := by simpa using h
    rw [readFrom, readFrom, step, step, if_neg hc]

theorem readsAs_clean {cs : List Char} (h : Clean cs) : ReadsAs cs (String.ofList cs) := by
  intro byte chars rest hrest
  rw [String.toList_ofList]
  induction cs generalizing byte chars with
  | nil => simp [width]
  | cons c cs ih =>
    obtain ⟨hopen, hclose, hcs⟩ := h
    have hnext : readFrom byte .text chars (c :: (cs ++ rest)) =
        readFrom (byte + c.utf8Size) .text (c :: chars) (cs ++ rest) := by
      rw [readFrom, step, plainStep, if_neg hopen]
      by_cases hc : c = '\x7d'
      · rw [if_pos hc]
        refine readFrom_closed ?_
        cases cs with
        | nil => exact hrest
        | cons d cs => exact hclose hc
      · rw [if_neg hc]
    rw [List.cons_append, hnext, ih hcs]
    simp [width, Nat.add_assoc]

theorem source_gap (slot : Slot) :
    (Segment.display (.gap slot)).toList = Segment.source (.gap slot) := by
  simp [Segment.display, Segment.source, String.toList_append]

theorem display_toList (segments : List Segment) :
    (display ⟨segments⟩).toList = segments.flatMap fun s => (Segment.display s).toList := by
  induction segments with
  | nil => rfl
  | cons s rest ih =>
    unfold display at ih ⊢
    rw [List.map_cons, String.join_cons, String.toList_append, List.flatMap_cons, ih]

/-- A template whose literals are verbatim is its own source. -/
theorem parse_display {segments : List Segment} (h : Canonical segments)
    (hverbatim : VerbatimText segments) : parse (display ⟨segments⟩) = .ok ⟨segments⟩ := by
  have htext : ∀ s, .text s ∈ segments → ReadsAs (Segment.display (.text s)).toList s := by
    intro s hs
    have hreads := readsAs_clean (hverbatim.of_mem hs).clean
    rwa [String.ofList_toList] at hreads
  rw [parse, display_toList, readFrom_segments source_gap htext h 0 [] fun _ _ => rfl]
  simp [textSegment]

/-! ## Length -/

/-- The characters that were read but are not yet in the text: a brace and a name. -/
def held : Position → Nat
  | .text | .closed => 0
  | .opened _ => 1
  | .slot _ name => name.length + 1

theorem step_held {byte : Nat} {pos after : Position} {chars text : List Char} {c : Char}
    (h : step byte pos chars c = .more after text) :
    text.length + held after ≤ chars.length + held pos + 1 := by
  cases pos with
  | text =>
    simp only [step, plainStep] at h
    split_ifs at h <;> cases h <;> simp [held]
  | closed =>
    simp only [step, plainStep] at h
    split_ifs at h <;> cases h <;> simp [held]
  | opened start =>
    simp only [step, slotStep] at h
    split_ifs at h <;> cases h <;> simp [held]
  | slot start name =>
    simp only [step, slotStep] at h
    split_ifs at h
    cases h
    simp [held]
    omega

/-- Where the name of a slot ends, and which. -/
theorem step_gap {byte : Nat} {pos : Position} {chars name : List Char} {c : Char}
    (h : step byte pos chars c = .gap name) :
    c = '\x7d' ∧
      ((∃ start, pos = .opened start ∧ name = []) ∨ ∃ start, pos = .slot start name) := by
  cases pos with
  | text =>
    simp only [step, plainStep] at h
    split_ifs at h
  | closed =>
    simp only [step, plainStep] at h
    split_ifs at h
  | opened start =>
    simp only [step, slotStep] at h
    split_ifs at h with _ hc
    exact ⟨hc, .inl ⟨start, rfl, (Step.gap.inj h).symm⟩⟩
  | slot start name' =>
    simp only [step, slotStep] at h
    split_ifs at h with hc
    exact ⟨hc, .inr ⟨start, by rw [Step.gap.inj h]⟩⟩

theorem held_of_gap {byte : Nat} {pos : Position} {chars name : List Char} {c : Char}
    (h : step byte pos chars c = .gap name) : held pos = name.length + 1 := by
  obtain ⟨_, ⟨start, rfl, rfl⟩ | ⟨start, rfl⟩⟩ := step_gap h <;> rfl

/-- The blanks around a name are not part of the name of the slot. -/
theorem slotNamed_ok {name : List Char} {slot : Slot} (h : slotNamed name = .ok slot) :
    List.Sublist slot.name.toList name.reverse := by
  unfold slotNamed at h
  dsimp only at h
  split at h
  · rename_i found hfound
    obtain rfl := Except.ok.inj h
    have hname : found.name = Text.trim (String.ofList name.reverse) := by
      simpa using List.find?_some hfound
    rw [hname, Text.trim, String.toList_ofList, String.toList_ofList, Text.trimList]
    have hfront := List.dropWhile_sublist (l := name.reverse) Text.isBlank
    have hback := List.dropWhile_sublist (l := (Text.trimFrontList name.reverse).reverse)
      Text.isBlank
    refine List.Sublist.trans ?_ hfront
    rw [← List.reverse_sublist, List.reverse_reverse]
    exact hback
  · contradiction

theorem length_display_gap (chars : List Char) (slot : Slot) (segments : List Segment) :
    (display ⟨textSegment chars ++ .gap slot :: segments⟩).toList.length =
      chars.length + slot.name.toList.length + 2 + (display ⟨segments⟩).toList.length := by
  have htext : ((textSegment chars).flatMap fun s => (Segment.display s).toList).length =
      chars.length := by
    cases chars <;> simp [textSegment, Segment.display]
  rw [display_toList, display_toList, List.flatMap_append, List.flatMap_cons, List.length_append,
    List.length_append, htext]
  simp [Segment.display]
  omega

/-- A template is at most as long as its source. -/
theorem length_read {byte : Nat} {pos : Position} {chars cs : List Char} {segments : List Segment}
    (h : readFrom byte pos chars cs = .ok segments) :
    (display ⟨segments⟩).toList.length ≤ chars.length + held pos + cs.length := by
  induction cs generalizing byte pos chars segments with
  | nil =>
    have hsegments : segments = textSegment chars := by
      cases pos <;> simp [readFrom] at h <;> exact h.symm
    subst hsegments
    cases chars <;> simp [display_toList, textSegment, Segment.display]
  | cons c cs ih =>
    rw [readFrom] at h
    cases hstep : step byte pos chars c with
    | more after text =>
      rw [hstep] at h
      have hrest := ih h
      have hheld := step_held hstep
      rw [List.length_cons]
      omega
    | gap name =>
      rw [hstep] at h
      obtain ⟨slot, hslot, h⟩ := bind_eq_ok.mp h
      obtain ⟨rest, hrest, h⟩ := bind_eq_ok.mp h
      obtain rfl := Except.ok.inj h
      have hlength := ih hrest
      have hname := (slotNamed_ok hslot).length_le
      rw [length_display_gap, held_of_gap hstep, List.length_cons]
      simp only [List.length_nil, held, Nat.zero_add, List.length_reverse] at hlength hname
      omega

/-! ## Exact sources -/

/-- The braces among the characters are those of the slots, and single closing braces. -/
inductive Exact (slots : List Slot) : List Char → Prop
  | nil : Exact slots []
  | char {c : Char} {cs : List Char} (hopen : c ≠ '\x7b') (hclose : c ≠ '\x7d')
      (h : Exact slots cs) : Exact slots (c :: cs)
  | close {cs : List Char} (hnext : cs.head? ≠ some '\x7d') (h : Exact slots cs) :
      Exact slots ('\x7d' :: cs)
  | slot {slot : Slot} {cs : List Char} (hslot : slot ∈ slots) (h : Exact slots cs) :
      Exact slots ('\x7b' :: (slot.name.toList ++ '\x7d' :: cs))

/-- The rest of a slot of which a part of the name was read, and exact characters. -/
def Ends (slots : List Slot) (name cs : List Char) : Prop :=
  ∃ slot ∈ slots, ∃ left rest, slot.name.toList = name.reverse ++ left ∧
    cs = left ++ '\x7d' :: rest ∧ Exact slots rest

/-- What makes a source exact, for a reader in the middle of it. -/
def ExactFrom (slots : List Slot) : Position → List Char → Prop
  | .text, cs => Exact slots cs
  | .closed, cs => cs.head? ≠ some '\x7d' ∧ Exact slots cs
  | .opened _, cs => Ends slots [] cs
  | .slot _ name, cs => Ends slots name cs

section Reading

variable {slots : List Slot} {byte : Nat} {pos after : Position} {chars text cs : List Char}
  {c : Char}

theorem exact_plain (h : plainStep byte chars c = .more after text)
    (hrest : ExactFrom slots after cs) : Exact slots (c :: cs) := by
  unfold plainStep at h
  split_ifs at h with hopen hclose
  · cases h
    obtain ⟨slot, hslot, left, rest, hname, rfl, hexact⟩ := hrest
    rw [hopen, ← List.nil_append left, ← List.reverse_nil, ← hname]
    exact .slot hslot hexact
  · cases h
    rw [hclose]
    exact .close hrest.1 hrest.2
  · cases h
    exact .char hopen hclose hrest

theorem exact_name {start : Nat} {name : List Char}
    (h : slotStep start name chars c = .more after text) (hrest : ExactFrom slots after cs) :
    Ends slots name (c :: cs) := by
  unfold slotStep at h
  split_ifs at h
  cases h
  obtain ⟨slot, hslot, left, rest, hname, rfl, hexact⟩ := hrest
  exact ⟨slot, hslot, c :: left, rest, by simpa using hname, rfl, hexact⟩

/-- A step that drops no brace goes on in an exact source. -/
theorem exact_more (h : step byte pos chars c = .more after text)
    (hkept : chars.length + held pos + 1 ≤ text.length + held after)
    (hrest : ExactFrom slots after cs) : ExactFrom slots pos (c :: cs) := by
  cases pos with
  | text => exact exact_plain h hrest
  | closed =>
    simp only [step] at h
    split_ifs at h with hclose
    · cases h
      exact absurd hkept (by simp [held])
    · exact ⟨by simpa using hclose, exact_plain h hrest⟩
  | opened start =>
    simp only [step] at h
    split_ifs at h
    · cases h
      exact absurd hkept (by simp [held])
    · exact exact_name h hrest
  | slot start name => exact exact_name h hrest

/-- The end of a slot that is named without blanks goes on in an exact source. -/
theorem exact_gap {name : List Char} (h : step byte pos chars c = .gap name) {slot : Slot}
    (hslot : slot ∈ slots) (hname : slot.name.toList = name.reverse) (hrest : Exact slots cs) :
    ExactFrom slots pos (c :: cs) := by
  obtain ⟨rfl, ⟨start, rfl, rfl⟩ | ⟨start, rfl⟩⟩ := step_gap h
  · exact ⟨slot, hslot, [], cs, by simpa using hname, rfl, hrest⟩
  · exact ⟨slot, hslot, [], cs, by simpa using hname, rfl, hrest⟩

/-- If a template is as long as its source, no brace was dropped. -/
theorem exact_of_length {segments : List Segment} (h : readFrom byte pos chars cs = .ok segments)
    (hfull : chars.length + held pos + cs.length ≤ (display ⟨segments⟩).toList.length)
    (hslots : ∀ slot, .gap slot ∈ segments → slot ∈ slots) : ExactFrom slots pos cs := by
  -- What is dropped once is never made up for: the rest is at most as long as it was.
  induction cs generalizing byte pos chars segments with
  | nil =>
    cases pos with
    | text => exact .nil
    | closed => exact ⟨by simp, .nil⟩
    | opened start => simp [readFrom] at h
    | slot start name => simp [readFrom] at h
  | cons c cs ih =>
    rw [readFrom] at h
    rw [List.length_cons] at hfull
    cases hstep : step byte pos chars c with
    | more after text =>
      rw [hstep] at h
      have hlength := length_read h
      have hheld := step_held hstep
      exact exact_more hstep (by omega) (ih h (by omega) hslots)
    | gap name =>
      rw [hstep] at h
      obtain ⟨slot, hslot, h⟩ := bind_eq_ok.mp h
      obtain ⟨rest, hrest, h⟩ := bind_eq_ok.mp h
      obtain rfl := Except.ok.inj h
      have hlength := length_read hrest
      have hshort := (slotNamed_ok hslot).length_le
      -- Neither the rest nor the name can be shorter, so there are no blanks around the name.
      rw [length_display_gap, held_of_gap hstep] at hfull
      simp only [List.length_nil, held, Nat.zero_add, List.length_reverse] at hlength hshort
      have hname : slot.name.toList = name.reverse :=
        (slotNamed_ok hslot).eq_of_length_le (by rw [List.length_reverse]; omega)
      have hnext : ExactFrom slots .text cs := by
        refine ih hrest ?_ fun slot hslot => hslots slot (by simp [hslot])
        simp only [List.length_nil, held]
        omega
      exact exact_gap hstep (hslots slot (by simp)) hname hnext

/-- A source that its template shows as it stands has no braces but those of the slots of the
    template. -/
theorem exact_of_parse {source : String} {t : Template} (h : parse source = .ok t)
    (hshown : t.display = source) : Exact t.openSlots source.toList := by
  unfold parse at h
  split at h
  · rename_i segments hread
    obtain rfl := Except.ok.inj h
    refine exact_of_length hread (by rw [hshown]; simp [held]) fun slot hslot => ?_
    rw [← has_iff_mem_open]
    simpa [has] using hslot
  · contradiction

end Reading

/-! ## Names in exact sources -/

section Names

variable {slots : List Slot} {cs ds : List Char}

theorem Exact.of_cons {c : Char} (hopen : c ≠ '\x7b') (h : Exact slots (c :: cs)) :
    Exact slots cs := by
  cases h with
  | char _ _ h => exact h
  | close _ h => exact h
  | slot _ _ => exact absurd rfl hopen

theorem Exact.of_clean (hcs : Clean cs) (h : Exact slots (cs ++ ds)) : Exact slots ds := by
  induction cs with
  | nil => exact h
  | cons c cs ih => exact ih hcs.2.2 (h.of_cons hcs.1)

/-- What stands before the first closing brace is the same in equal texts. -/
theorem before_close {name other rest more : List Char} (hname : '\x7d' ∉ name)
    (hother : '\x7d' ∉ other) (h : name ++ '\x7d' :: rest = other ++ '\x7d' :: more) :
    name = other ∧ rest = more := by
  induction name generalizing other with
  | nil =>
    cases other with
    | nil => exact ⟨rfl, (List.cons.inj h).2⟩
    | cons d other => exact absurd ((List.cons.inj h).1 ▸ List.mem_cons_self) hother
  | cons c name ih =>
    cases other with
    | nil => exact absurd ((List.cons.inj h).1 ▸ List.mem_cons_self) hname
    | cons d other =>
      obtain ⟨hhead, htail⟩ := List.cons.inj h
      obtain ⟨hnames, hrest⟩ := ih (fun hc => hname (List.mem_cons_of_mem c hc))
        (fun hd => hother (List.mem_cons_of_mem d hd)) htail
      exact ⟨by rw [hhead, hnames], hrest⟩

theorem close_notMem (slot : Slot) : '\x7d' ∉ slot.name.toList := by
  obtain ⟨_, _, _, hplain⟩ := name_plain slot
  exact fun h => (hplain _ h).2 rfl

theorem name_injective {slot other : Slot} (h : slot.name.toList = other.name.toList) :
    slot = other := by
  have hslot := slotNamed_name slot
  rw [h, slotNamed_name other] at hslot
  exact (Except.ok.inj hslot).symm

theorem Exact.of_gap {slot : Slot} (h : Exact slots (Segment.source (.gap slot) ++ cs)) :
    Exact slots cs := by
  have hsource : Segment.source (.gap slot) ++ cs =
      '\x7b' :: (slot.name.toList ++ '\x7d' :: cs) := by
    simp [Segment.source]
  rw [hsource] at h
  generalize hrest : slot.name.toList ++ '\x7d' :: cs = rest at h
  cases h with
  | char hopen _ _ => exact absurd rfl hopen
  | @slot other more _ h =>
    obtain ⟨_, rfl⟩ := before_close (close_notMem slot) (close_notMem other) hrest
    exact h

/-- What follows verbatim literals and slots in an exact source is exact. -/
theorem Exact.of_display {segments : List Segment} (hverbatim : VerbatimText segments)
    (h : Exact slots ((display ⟨segments⟩).toList ++ cs)) : Exact slots cs := by
  rw [display_toList] at h
  induction segments with
  | nil => exact h
  | cons s rest ih =>
    rw [List.flatMap_cons, List.append_assoc] at h
    cases s with
    | gap slot => exact ih hverbatim (Exact.of_gap (source_gap slot ▸ h))
    | text s => exact ih hverbatim.2 (h.of_clean hverbatim.1.clean)

theorem quote_notMem (slot : Slot) : '"' ∉ slot.name.toList := by
  cases slot <;> decide

/-- A slot that starts inside a quoted name ends there, because no slot has a quote in its
    name. -/
theorem slot_in_quotes {slot : Slot} {rest more : List Char}
    (h : cs ++ '"' :: rest = slot.name.toList ++ '\x7d' :: more) :
    ∃ left, cs = slot.name.toList ++ '\x7d' :: left := by
  rcases List.append_eq_append_iff.mp h with ⟨left, hname, hleft⟩ | ⟨left, rfl, hleft⟩
  · cases left with
    | nil => exact absurd (List.cons.inj hleft).1 (by decide)
    | cons c left =>
      rw [← (List.cons.inj hleft).1] at hname
      exact absurd (by simp [hname]) (quote_notMem slot)
  · cases left with
    | nil => exact absurd (List.cons.inj hleft).1 (by decide)
    | cons c left =>
      rw [← (List.cons.inj hleft).1]
      exact ⟨left, rfl⟩

theorem clean_of_exact {others : List Slot} (hapart : slots.Disjoint others)
    {rest more : List Char} (h : Exact slots (cs ++ '"' :: rest))
    (h' : Exact others (cs ++ '"' :: more)) : Clean cs := by
  induction cs with
  | nil => trivial
  | cons c cs ih =>
    rw [List.cons_append] at h h'
    generalize hall : cs ++ '"' :: rest = all at h
    cases h with
    | char hopen hclose h =>
      subst hall
      exact ⟨hopen, fun hc => absurd hc hclose, ih h (h'.of_cons hopen)⟩
    | close hnext h =>
      subst hall
      refine ⟨by decide, fun _ => ?_, ih h (h'.of_cons (by decide))⟩
      cases cs with
      | nil => simp
      | cons d cs => exact hnext
    | slot hslot _ =>
      -- The same slot would start here in the other template.
      generalize hall' : cs ++ '"' :: more = all' at h'
      cases h' with
      | char hopen _ _ => exact absurd rfl hopen
      | slot hslot' _ =>
        obtain ⟨left, rfl⟩ := slot_in_quotes hall
        obtain ⟨left', hleft'⟩ := slot_in_quotes hall'
        obtain ⟨hname, _⟩ := before_close (close_notMem _) (close_notMem _) hleft'
        exact (hapart hslot (name_injective hname ▸ hslot')).elim

/-- A quoted name that is shown as it stands in templates without a common slot is verbatim. -/
theorem verbatim_of_exact {others : List Slot} (hapart : slots.Disjoint others) {name : String}
    {rest more : List Char} (h : Exact slots ((quoted name).toList ++ rest))
    (h' : Exact others ((quoted name).toList ++ more)) : Verbatim name := by
  have hquoted (after : List Char) :
      (quoted name).toList ++ after = '"' :: (doubled '"' name.toList ++ '"' :: after) := by
    unfold quoted enclosed
    simp
  rw [hquoted] at h h'
  have hclean := clean_of_exact hapart (h.of_cons (by decide)) (h'.of_cons (by decide))
  exact ⟨(clean_doubled _).mp (hclean.append (by simp [Clean]) (by simp))⟩

end Names

end RowServe.Sql.Template
