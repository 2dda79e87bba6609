import RowServe.Proofs.Template.Verbatim

/-!
# What is read of a source

Reading undoes writing: the source of canonical segments is read as these segments. Whatever is
read is canonical as well, and what cannot be read has a slot at fault, which does not end or
has no slot's name. All before that slot can be read by itself, so the opening brace that is
blamed is the one that a reader comes to first.

Results:

* `canonical_of_read`: what is read is canonical.
* `stuck_of_read`, `read_of_reached`: when reading fails, and where.
* `parse_eq_error_iff`: the sources that are refused, each with its error.
* `parse_inverts`: sources of canonical segments, what is read, and what is refused.
-/

namespace RowServe.Sql.Template

theorem width_eq (cs : List Char) : width cs = (String.ofList cs).utf8ByteSize := by
  induction cs with
  | nil => rfl
  | cons c cs ih =>
    rw [width, ih, String.ofList_cons, String.utf8ByteSize_append, String.utf8ByteSize_singleton]

/-! ## Canonical segments -/

section Canonical

variable {byte : Nat} {pos : Position} {chars cs : List Char} {segments : List Segment}

theorem canonical_textSegment (chars : List Char) : Canonical (textSegment chars) := by
  cases chars with
  | nil => trivial
  | cons c chars => simp [textSegment, Canonical]

theorem canonical_gap (chars : List Char) (slot : Slot) (h : Canonical segments) :
    Canonical (textSegment chars ++ .gap slot :: segments) := by
  cases chars with
  | nil => exact h
  | cons c chars => simpa [textSegment, Canonical] using h

/-- What is read is canonical: a text is cut where a slot stands, and only there. -/
theorem canonical_of_read (h : readFrom byte pos chars cs = .ok segments) :
    Canonical segments := by
  induction cs generalizing byte pos chars segments with
  | nil =>
    have hread : segments = textSegment chars := by
      cases pos with
      | text | closed => exact (Except.ok.inj h).symm
      | opened start | slot start name => contradiction
    rw [hread]
    exact canonical_textSegment chars
  | cons c cs ih =>
    rw [readFrom] at h
    cases hstep : step byte pos chars c with
    | more after text =>
      rw [hstep] at h
      exact ih h
    | gap name =>
      rw [hstep] at h
      obtain ⟨slot, _, h⟩ := bind_eq_ok.mp h
      obtain ⟨rest, hrest, h⟩ := bind_eq_ok.mp h
      rw [← Except.ok.inj h]
      exact canonical_gap chars slot (ih hrest)

end Canonical

/-! ## Names at fault -/

/-- No slot has the name that stands between two braces. -/
def Unknown (name : String) : Prop := ∀ slot : Slot, slot.name ≠ Text.trim name

theorem slotNamed_cases (name : List Char) :
    (∃ slot, slotNamed name = .ok slot ∧ ¬ Unknown (String.ofList name.reverse)) ∨
      slotNamed name = .error (.unknownSlot (String.ofList name.reverse)) ∧
        Unknown (String.ofList name.reverse) := by
  unfold slotNamed
  dsimp only
  cases hfound : Slot.ofName? (Text.trim (String.ofList name.reverse)) with
  | some slot =>
    have hname : slot.name = Text.trim (String.ofList name.reverse) := by
      simpa using List.find?_some hfound
    exact .inl ⟨slot, rfl, fun hunknown => hunknown slot hname⟩
  | none =>
    refine .inr ⟨rfl, fun slot hname => ?_⟩
    have hall : slot ∈ Slot.all := by cases slot <;> decide
    have hother := List.find?_eq_none.mp hfound slot hall
    simp [hname] at hother

theorem slotNamed_unknown {name : List Char} (h : Unknown (String.ofList name.reverse)) :
    slotNamed name = .error (.unknownSlot (String.ofList name.reverse)) := by
  rcases slotNamed_cases name with ⟨_, _, hknown⟩ | ⟨herror, _⟩
  · exact absurd h hknown
  · exact herror

/-- A name of which the characters `read` were read comes to no good: it does not end, or it is
    no slot's. The opening brace in front of it is at the offset `start`. -/
inductive Stuck (start : Nat) (read : List Char) : List Char → TemplateError → Prop
  | unterminated {cs : List Char} (hopen : '\x7d' ∉ cs) : Stuck start read cs (.unterminated start)
  | unknown {name rest : List Char} (hname : '\x7d' ∉ name)
      (hslot : Unknown (String.ofList (read.reverse ++ name))) :
      Stuck start read (name ++ '\x7d' :: rest)
        (.unknownSlot (String.ofList (read.reverse ++ name)))

/-- The same at a position of a reader. In plain text there is no name yet. -/
def StuckAt : Position → List Char → TemplateError → Prop
  | .text, _, _ | .closed, _, _ => False
  | .opened start, cs, e => cs.head? ≠ some '\x7b' ∧ Stuck start [] cs e
  | .slot start read, cs, e => Stuck start read cs e

/-- A reader comes to an opening brace with a name behind it that comes to no good. -/
def Reached (byte : Nat) (pos : Position) (chars cs : List Char) (e : TemplateError) : Prop :=
  ∃ before rest, cs = before ++ '\x7b' :: rest ∧
    (∃ segments, readFrom byte pos chars before = .ok segments) ∧
    rest.head? ≠ some '\x7b' ∧ Stuck (byte + width before) [] rest e

section Reading

variable {byte start : Nat} {pos after : Position} {read chars text cs : List Char} {c : Char}
  {e : TemplateError}

theorem Stuck.cons (hc : c ≠ '\x7d') (h : Stuck start (c :: read) cs e) :
    Stuck start read (c :: cs) e := by
  cases h with
  | unterminated hopen => exact .unterminated (by simp [hopen, hc.symm])
  | @unknown name rest hname hslot =>
    have hread : (c :: read).reverse ++ name = read.reverse ++ c :: name := by simp
    rw [hread] at hslot ⊢
    exact .unknown (by simp [hname, hc.symm]) hslot

theorem Reached.more (hstep : step byte pos chars c = .more after text)
    (h : Reached (byte + c.utf8Size) after text cs e) : Reached byte pos chars (c :: cs) e := by
  obtain ⟨before, rest, rfl, ⟨segments, hbefore⟩, hhead, hstuck⟩ := h
  refine ⟨c :: before, rest, rfl, ⟨segments, ?_⟩, hhead, ?_⟩
  · rw [readFrom, hstep]
    exact hbefore
  · rwa [width, ← Nat.add_assoc]

theorem Reached.gap {name : List Char} {slot : Slot} (hstep : step byte pos chars c = .gap name)
    (hslot : slotNamed name = .ok slot) (h : Reached (byte + c.utf8Size) .text [] cs e) :
    Reached byte pos chars (c :: cs) e := by
  obtain ⟨before, rest, rfl, ⟨segments, hbefore⟩, hhead, hstuck⟩ := h
  refine ⟨c :: before, rest, rfl, ⟨textSegment chars ++ .gap slot :: segments, ?_⟩, hhead, ?_⟩
  · rw [readFrom, hstep]
    exact bind_eq_ok.mpr ⟨slot, hslot, bind_eq_ok.mpr ⟨segments, hbefore, rfl⟩⟩
  · rwa [width, ← Nat.add_assoc]

/-- A name that is begun in plain text begins at its opening brace. -/
theorem reached_plain (hpos : readFrom byte pos chars [] = .ok (textSegment chars))
    (hstep : plainStep byte chars c = .more after text) (h : StuckAt after cs e) :
    Reached byte pos chars (c :: cs) e := by
  unfold plainStep at hstep
  split_ifs at hstep with hopen hclose
  · cases hstep
    exact ⟨[], cs, by rw [hopen]; rfl, ⟨_, hpos⟩, h⟩
  · cases hstep
    exact h.elim
  · cases hstep
    exact h.elim

theorem stuck_name {start : Nat} (hstep : slotStep start read chars c = .more after text)
    (h : StuckAt after cs e) : Stuck start read (c :: cs) e := by
  unfold slotStep at hstep
  split_ifs at hstep with hclose
  cases hstep
  exact Stuck.cons hclose h

/-- A step keeps what comes to no good. -/
theorem stuck_more (hstep : step byte pos chars c = .more after text) (h : StuckAt after cs e) :
    Reached byte pos chars (c :: cs) e ∨ StuckAt pos (c :: cs) e := by
  cases pos with
  | text => exact .inl (reached_plain rfl hstep h)
  | closed =>
    simp only [step] at hstep
    split_ifs at hstep
    · cases hstep
      exact h.elim
    · exact .inl (reached_plain rfl hstep h)
  | opened start =>
    simp only [step] at hstep
    split_ifs at hstep with hopen
    · cases hstep
      exact h.elim
    · exact .inr ⟨by simpa using hopen, stuck_name hstep h⟩
  | slot start read => exact .inr (stuck_name hstep h)

/-- The end of a name that is no slot's. -/
theorem stuck_gap {name : List Char} (hstep : step byte pos chars c = .gap name)
    (hslot : Unknown (String.ofList name.reverse)) :
    StuckAt pos (c :: cs) (.unknownSlot (String.ofList name.reverse)) := by
  rw [← List.append_nil name.reverse] at hslot ⊢
  obtain ⟨rfl, ⟨start, rfl, rfl⟩ | ⟨start, rfl⟩⟩ := step_gap hstep
  · exact ⟨by simp, .unknown List.not_mem_nil hslot⟩
  · exact .unknown List.not_mem_nil hslot

/-- If reading fails, the name that is being read comes to no good, or a later one. -/
theorem stuck_of_read (h : readFrom byte pos chars cs = .error e) :
    Reached byte pos chars cs e ∨ StuckAt pos cs e := by
  induction cs generalizing byte pos chars with
  | nil =>
    cases pos with
    | text | closed => contradiction
    | opened start =>
      rw [← Except.error.inj h]
      exact .inr ⟨by simp, .unterminated List.not_mem_nil⟩
    | slot start read =>
      rw [← Except.error.inj h]
      exact .inr (.unterminated List.not_mem_nil)
  | cons c cs ih =>
    rw [readFrom] at h
    cases hstep : step byte pos chars c with
    | more after text =>
      rw [hstep] at h
      rcases ih h with hreached | hstuck
      · exact .inl (hreached.more hstep)
      · exact stuck_more hstep hstuck
    | gap name =>
      rw [hstep] at h
      rcases slotNamed_cases name with ⟨slot, hslot, _⟩ | ⟨hslot, hunknown⟩
      · cases hrest : readFrom (byte + c.utf8Size) .text [] cs with
        | ok segments => simp [hslot, hrest, bind, Except.bind, pure, Except.pure] at h
        | error e' =>
          simp only [hslot, hrest, bind, Except.bind, Except.error.injEq] at h
          exact .inl (((ih (h ▸ hrest)).resolve_right id).gap hstep hslot)
      · simp only [hslot, bind, Except.bind, Except.error.injEq] at h
        exact .inr (h ▸ stuck_gap hstep hunknown)

/-! ## Failures -/

theorem read_of_stuck (h : Stuck start read cs e) :
    readFrom byte (.slot start read) chars cs = .error e := by
  cases h with
  | unterminated hopen =>
    induction cs generalizing byte read with
    | nil => rfl
    | cons c cs ih =>
      have hc : c ≠ '\x7d' := fun hc => hopen (hc ▸ List.mem_cons_self)
      rw [readFrom, step, slotStep, if_neg hc]
      exact ih fun hmem => hopen (List.mem_cons_of_mem c hmem)
  | @unknown name rest hname hslot =>
    have hreverse : (name.reverse ++ read).reverse = read.reverse ++ name := by simp
    rw [readFrom_name _ _ _ _ _ _ fun c hc heq => hname (heq ▸ hc),
      slotNamed_unknown (hreverse.symm ▸ hslot), hreverse]
    rfl

/-- Behind an opening brace a name begins, unless another one follows. -/
theorem readFrom_opened (h : cs.head? ≠ some '\x7b') :
    readFrom byte (.opened start) chars cs = readFrom byte (.slot start []) chars cs := by
  cases cs with
  | nil => rfl
  | cons c cs =>
    have hc : c ≠ '\x7b' := by simpa using h
    rw [readFrom, readFrom, step, step, if_neg hc]

theorem read_of_reached (h : Reached byte pos chars cs e) :
    readFrom byte pos chars cs = .error e := by
  obtain ⟨before, rest, rfl, ⟨segments, hbefore⟩, hhead, hstuck⟩ := h
  -- What is in front is read in the same steps as it is by itself.
  induction before generalizing byte pos chars segments with
  | nil =>
    have hopened : readFrom (byte + Char.utf8Size '\x7b') (.opened byte) chars rest = .error e := by
      rw [readFrom_opened hhead]
      exact read_of_stuck hstuck
    cases pos with
    | text =>
      rw [List.nil_append, readFrom, step, plainStep, if_pos rfl]
      exact hopened
    | closed =>
      rw [List.nil_append, readFrom, step, if_neg (by decide), plainStep, if_pos rfl]
      exact hopened
    | opened start | slot start name => contradiction
  | cons c before ih =>
    rw [width, ← Nat.add_assoc] at hstuck
    rw [readFrom] at hbefore
    rw [List.cons_append, readFrom]
    cases hstep : step byte pos chars c with
    | more after text =>
      rw [hstep] at hbefore
      exact ih segments hbefore hstuck
    | gap name =>
      rw [hstep] at hbefore
      obtain ⟨slot, hslot, hbefore⟩ := bind_eq_ok.mp hbefore
      obtain ⟨others, hothers, _⟩ := bind_eq_ok.mp hbefore
      have hrest := ih others hothers hstuck
      simp only [hslot, hrest, bind, Except.bind]

end Reading

/-! ## Sources -/

/-- The text can stand behind the opening brace of a slot: it does not begin with a second one,
    which would make a brace of the text of them, and no closing brace ends it. -/
structure IsName (name : String) : Prop where
  head : name.toList.head? ≠ some '\x7b'
  close : '\x7d' ∉ name.toList

/-- The sources that are no templates, each with its error. What is in front of the slot at fault
    is a source of its own. -/
inductive Refused : String → TemplateError → Prop
  | unterminated {before name : String} (hbefore : ∃ t, parse before = .ok t)
      (hname : IsName name) :
      Refused (before ++ "\x7b" ++ name) (.unterminated before.utf8ByteSize)
  | unknown {before name rest : String} (hbefore : ∃ t, parse before = .ok t)
      (hname : IsName name) (hslot : Unknown name) :
      Refused (before ++ "\x7b" ++ name ++ "\x7d" ++ rest) (.unknownSlot name)

theorem parse_ok_iff {s : String} {t : Template} :
    parse s = .ok t ↔ readFrom 0 .text [] s.toList = .ok t.segments := by
  unfold parse
  cases hread : readFrom 0 .text [] s.toList with
  | error e => simp
  | ok segments =>
    obtain ⟨others⟩ := t
    simp

theorem exists_parse_iff {s : String} :
    (∃ t, parse s = .ok t) ↔ ∃ segments, readFrom 0 .text [] s.toList = .ok segments := by
  constructor
  · rintro ⟨t, ht⟩
    exact ⟨t.segments, parse_ok_iff.mp ht⟩
  · rintro ⟨segments, hread⟩
    exact ⟨⟨segments⟩, parse_ok_iff.mpr hread⟩

theorem parse_error_iff {s : String} {e : TemplateError} :
    parse s = .error e ↔ readFrom 0 .text [] s.toList = .error e := by
  unfold parse
  cases readFrom 0 .text [] s.toList <;> simp

theorem refused_of_reached {s : String} {e : TemplateError}
    (h : Reached 0 .text [] s.toList e) : Refused s e := by
  obtain ⟨before, rest, hsource, hbefore, hhead, hstuck⟩ := h
  have hparse : ∃ t, parse (String.ofList before) = .ok t :=
    exists_parse_iff.mpr (by rwa [String.toList_ofList])
  rw [Nat.zero_add, width_eq] at hstuck
  cases hstuck with
  | unterminated hopen =>
    have hs : s = String.ofList before ++ "\x7b" ++ String.ofList rest := by
      apply String.ext
      simp [hsource]
    rw [hs]
    exact .unterminated hparse ⟨by simpa using hhead, by simpa using hopen⟩
  | @unknown name rest hname hslot =>
    have hs : s = String.ofList before ++ "\x7b" ++ String.ofList name ++ "\x7d" ++
        String.ofList rest := by
      apply String.ext
      simp [hsource]
    have hfirst : name.head? ≠ some '\x7b' := by
      intro hopen
      obtain ⟨cs, rfl⟩ := List.head?_eq_some_iff.mp hopen
      exact hhead rfl
    rw [hs]
    exact .unknown hparse ⟨by simpa using hfirst, by simpa using hname⟩ hslot

theorem reached_of_refused {s : String} {e : TemplateError} (h : Refused s e) :
    Reached 0 .text [] s.toList e := by
  cases h with
  | @unterminated before name hbefore hname =>
    refine ⟨before.toList, name.toList, by simp, exists_parse_iff.mp hbefore, hname.head, ?_⟩
    rw [Nat.zero_add, width_eq, String.ofList_toList]
    exact .unterminated hname.close
  | @unknown before name rest hbefore hname hslot =>
    refine ⟨before.toList, name.toList ++ '\x7d' :: rest.toList, by simp,
      exists_parse_iff.mp hbefore, ?_, ?_⟩
    · have hfirst := hname.head
      cases hlist : name.toList with
      | nil => simp
      | cons c cs =>
        rw [hlist] at hfirst
        exact hfirst
    · have hstuck : Stuck (0 + width before.toList) [] (name.toList ++ '\x7d' :: rest.toList)
          (.unknownSlot (String.ofList ([].reverse ++ name.toList))) :=
        .unknown hname.close (by simpa using hslot)
      simpa using hstuck

/-- A source is refused with an error exactly if the slot at fault is there. -/
theorem parse_eq_error_iff (s : String) (e : TemplateError) :
    parse s = .error e ↔ Refused s e := by
  rw [parse_error_iff]
  constructor
  · exact fun h => refused_of_reached ((stuck_of_read h).resolve_right id)
  · exact fun h => read_of_reached (reached_of_refused h)

/-- The source of canonical segments is read as these segments, whatever is read is canonical,
    and a source is refused for a slot that does not end, at the offset of its opening brace in
    UTF-8, or for a name that no slot has. -/
theorem parse_inverts :
    (∀ segments, Canonical segments → parse (String.ofList (source segments)) = .ok ⟨segments⟩) ∧
      (∀ s t, parse s = .ok t → Canonical t.segments) ∧
      ∀ s e, parse s = .error e ↔ Refused s e := by
  refine ⟨fun segments h => ?_, fun s t h => ?_, parse_eq_error_iff⟩
  · exact parse_source h String.toList_ofList
  · exact canonical_of_read (parse_ok_iff.mp h)

/-- A slot between two braces of the text. -/
def braced : List Segment := [.text "\x7b", .gap .select, .text "\x7d"]

theorem braced_inverts :
    Canonical braced ∧ parse "\x7b\x7b\x7bselect\x7d\x7d\x7d" = .ok ⟨braced⟩ := by
  obtain ⟨hsource, hcanonical, _⟩ := parse_inverts
  have hbraced : Canonical braced := by simp [braced, Canonical]
  have hparse : parse "\x7b\x7b\x7bselect\x7d\x7d\x7d" = .ok ⟨braced⟩ := hsource braced hbraced
  exact ⟨hcanonical _ _ hparse, hparse⟩

end RowServe.Sql.Template
