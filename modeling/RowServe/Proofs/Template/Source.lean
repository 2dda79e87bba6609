import Mathlib.Data.List.Basic
import RowServe.Sql.Identifier
import RowServe.Sql.Template

/-!
# Sources of templates

Every list of segments has a source that reads back to it: literals with their braces
doubled, slots as their names between braces.

Results:

* `readFrom_escaped`: an escaped literal is read as the literal.
* `readFrom_gap`: a slot is read as the slot.
* `readFrom_segments`: segments are read back if their literals are.
* `parse_source`: the source of canonical segments is read as these segments.
-/

namespace RowServe.Sql.Template

/-- The bytes of some characters in UTF-8. -/
def width : List Char → Nat
  | [] => 0
  | c :: cs => c.utf8Size + width cs

theorem width_append (cs ds : List Char) : width (cs ++ ds) = width cs + width ds := by
  induction cs with
  | nil => simp [width]
  | cons c cs ih => simp [width, ih, Nat.add_assoc]

/-- Is the character a brace? -/
def isBrace (c : Char) : Bool := c = '\x7b' || c = '\x7d'

/-- The characters with every brace among them doubled. -/
def escaped (cs : List Char) : List Char := cs.flatMap fun c => if isBrace c then [c, c] else [c]

/-- A segment as it is written in a source. -/
def Segment.source : Segment → List Char
  | .text s => escaped s.toList
  | .gap slot => '\x7b' :: (slot.name.toList ++ ['\x7d'])

/-- The segments as one source. -/
def source (segments : List Segment) : List Char := segments.flatMap Segment.source

/-- Literals are not empty and do not stand side by side. -/
def Canonical : List Segment → Prop
  | [] => True
  | .gap _ :: rest => Canonical rest
  | .text s :: rest => s ≠ "" ∧ (∀ t, rest.head? ≠ some (.text t)) ∧ Canonical rest

@[simp] theorem escaped_nil : escaped [] = [] := rfl

theorem escaped_cons (c : Char) (cs : List Char) :
    escaped (c :: cs) = (if isBrace c then [c, c] else [c]) ++ escaped cs := by
  simp [escaped]

/-! ## Reading literals -/

theorem readFrom_escaped (byte : Nat) (chars cs rest : List Char) :
    readFrom byte .text chars (escaped cs ++ rest) =
      readFrom (byte + width (escaped cs)) .text (cs.reverse ++ chars) rest := by
  induction cs generalizing byte chars with
  | nil => simp [width]
  | cons c cs ih =>
    rw [escaped_cons]
    by_cases hopen : c = '\x7b'
    · subst hopen
      simp only [isBrace, decide_true, Bool.true_or, if_true, List.cons_append, List.nil_append]
      rw [readFrom, step, plainStep, if_pos rfl]
      dsimp only
      rw [readFrom, step, if_pos rfl]
      dsimp only
      rw [ih]
      simp [width, Nat.add_assoc]
    · by_cases hclose : c = '\x7d'
      · subst hclose
        simp only [isBrace, decide_true, Bool.or_true, if_true, List.cons_append, List.nil_append]
        rw [readFrom, step, plainStep, if_neg hopen, if_pos rfl]
        dsimp only
        rw [readFrom, step, if_pos rfl]
        dsimp only
        rw [ih]
        simp [width, Nat.add_assoc]
      · have plain : isBrace c = false := by simp [isBrace, hopen, hclose]
        simp only [plain, Bool.false_eq_true, if_false, List.cons_append, List.nil_append]
        rw [readFrom, step, plainStep, if_neg hopen, if_neg hclose]
        dsimp only
        rw [ih]
        simp [width, Nat.add_assoc]

/-! ## Reading slots -/

/-- A name without braces is collected up to the closing brace. -/
theorem readFrom_name (byte start : Nat) (read name chars rest : List Char)
    (h : ∀ c ∈ name, c ≠ '\x7d') :
    readFrom byte (.slot start read) chars (name ++ '\x7d' :: rest) =
      (do
        let slot ← slotNamed (name.reverse ++ read)
        let segments ← readFrom (byte + width name + 1) .text [] rest
        return textSegment chars ++ .gap slot :: segments) := by
  induction name generalizing byte read with
  | nil =>
    rw [List.nil_append, readFrom, step, slotStep, if_pos rfl]
    simp [width, show Char.utf8Size '\x7d' = 1 by decide]
  | cons c name ih =>
    rw [List.cons_append, readFrom, step, slotStep, if_neg (h c List.mem_cons_self)]
    dsimp only
    rw [ih _ _ fun d hd => h d (List.mem_cons_of_mem c hd)]
    simp [width, Nat.add_assoc]

/-- The names of slots have a first character, and no character of them is a brace. -/
theorem name_plain (slot : Slot) :
    ∃ c cs, slot.name.toList = c :: cs ∧ ∀ d ∈ slot.name.toList, d ≠ '\x7b' ∧ d ≠ '\x7d' := by
  have hall : slot.name.toList.all (fun d => d ≠ '\x7b' ∧ d ≠ '\x7d') = true := by
    cases slot <;> decide
  have hplain : ∀ d ∈ slot.name.toList, d ≠ '\x7b' ∧ d ≠ '\x7d' := fun d hd =>
    of_decide_eq_true (List.all_eq_true.mp hall d hd)
  cases slot <;> exact ⟨_, _, rfl, hplain⟩

theorem slotNamed_name (slot : Slot) : slotNamed slot.name.toList.reverse = .ok slot := by
  cases slot <;> decide +kernel

theorem readFrom_gap (byte : Nat) (slot : Slot) (chars rest : List Char) :
    readFrom byte .text chars (Segment.source (.gap slot) ++ rest) =
      (do
        let segments ← readFrom (byte + width (Segment.source (.gap slot))) .text [] rest
        return textSegment chars ++ .gap slot :: segments) := by
  obtain ⟨c, cs, hname, hplain⟩ := name_plain slot
  have hsource : Segment.source (.gap slot) ++ rest = '\x7b' :: c :: (cs ++ '\x7d' :: rest) := by
    simp [Segment.source, hname]
  have hwidth : width (Segment.source (.gap slot)) = 1 + c.utf8Size + width cs + 1 := by
    simp [Segment.source, hname, width, width_append, show Char.utf8Size '\x7b' = 1 by decide,
      show Char.utf8Size '\x7d' = 1 by decide]
    omega
  rw [hname] at hplain
  have hc := hplain c List.mem_cons_self
  rw [hsource, readFrom, step, plainStep, if_pos rfl]
  dsimp only
  rw [readFrom, step, if_neg hc.1, slotStep, if_neg hc.2]
  dsimp only
  rw [readFrom_name _ _ _ _ _ _ fun d hd => (hplain d (List.mem_cons_of_mem c hd)).2,
    show cs.reverse ++ [c] = slot.name.toList.reverse by simp [hname], slotNamed_name, hwidth,
    show Char.utf8Size '\x7b' = 1 by decide]
  simp only [bind, Except.bind, Nat.add_assoc]

/-! ## Reading segments -/

theorem textSegment_reverse {cs : List Char} (h : cs ≠ []) :
    textSegment cs.reverse = [.text (String.ofList cs)] := by
  simp [textSegment, h]

/-- The characters are read as the text if no closing brace follows. -/
def ReadsAs (cs : List Char) (s : String) : Prop :=
  ∀ byte chars rest, rest.head? ≠ some '\x7d' →
    readFrom byte .text chars (cs ++ rest) =
      readFrom (byte + width cs) .text (s.toList.reverse ++ chars) rest

/-- Segments behind a literal that is still open: none, or a slot first. -/
theorem readFrom_segments {write : Segment → List Char}
    (hgap : ∀ slot, write (.gap slot) = Segment.source (.gap slot)) {segments : List Segment}
    (htext : ∀ s, .text s ∈ segments → ReadsAs (write (.text s)) s) (h : Canonical segments)
    (byte : Nat) (chars : List Char)
    (hhead : ∀ t, segments.head? = some (.text t) → chars = []) :
    readFrom byte .text chars (segments.flatMap write) = .ok (textSegment chars ++ segments) := by
  induction segments generalizing byte chars with
  | nil => simp [readFrom]
  | cons s rest ih =>
    have ih := ih fun s hs => htext s (List.mem_cons_of_mem _ hs)
    cases s with
    | gap slot =>
      rw [List.flatMap_cons, hgap, readFrom_gap, ih h _ _ fun _ _ => rfl]
      simp [bind, Except.bind, pure, Except.pure, textSegment]
    | text t =>
      obtain ⟨hne, hnext, hrest⟩ := h
      have hchars : chars = [] := hhead t rfl
      subst hchars
      have hlist : t.toList ≠ [] := by simpa using hne
      have hclose : (rest.flatMap write).head? ≠ some '\x7d' := by
        cases rest with
        | nil => simp
        | cons u rest =>
          cases u with
          | gap slot => simp [hgap, Segment.source]
          | text u => exact absurd rfl (hnext u)
      rw [List.flatMap_cons, htext t List.mem_cons_self _ _ _ hclose, List.append_nil,
        ih hrest _ _ fun u hu => absurd hu (hnext u), textSegment_reverse hlist]
      simp [textSegment]

theorem parse_source {segments : List Segment} (h : Canonical segments) {s : String}
    (hs : s.toList = source segments) : parse s = .ok ⟨segments⟩ := by
  have htext : ∀ t, .text t ∈ segments → ReadsAs (Segment.source (.text t)) t :=
    fun t _ byte chars rest _ => readFrom_escaped byte chars t.toList rest
  rw [parse, hs, source, readFrom_segments (fun _ => rfl) htext h 0 [] fun _ _ => rfl]
  simp [textSegment]

/-! ## Literals without braces -/

/-- No character of the text is a brace. -/
def Plain (s : String) : Prop := ∀ c ∈ s.toList, isBrace c = false

-- Only the characters of the text are looked at, not all characters there are.
instance (s : String) : Decidable (Plain s) :=
  List.decidableBAll (fun c => isBrace c = false) s.toList

end RowServe.Sql.Template
