import RowServe.Text.Blank

/-!
# Statement templates

SQL text with named gaps, as in `SELECT {select} FROM "t" WHERE {where}`. A template is
read once; its slots are filled in stages, and what is filled in is never read again.
A brace of the SQL text itself is written twice.

Results:

* `has_iff_mem_open`: the open slots are the slots that occur.
-/

namespace RowServe.Sql

/-- The gaps a template may have. -/
inductive Slot where
  | select | joins | predicate | limit | offset | orderBy | orderHow | updates | cols | vals
  deriving DecidableEq, Repr

namespace Slot

/-- The slots in their fixed order. -/
def all : List Slot :=
  [select, joins, predicate, limit, offset, orderBy, orderHow, updates, cols, vals]

/-- The name of a slot in a template. -/
def name : Slot → String
  | select => "select"
  | joins => "joins"
  | predicate => "where"
  | limit => "limit"
  | offset => "offset"
  | orderBy => "orderby"
  | orderHow => "orderhow"
  | updates => "updates"
  | cols => "cols"
  | vals => "vals"

/-- The slot of a name. -/
def ofName? (name : String) : Option Slot := all.find? (·.name = name)

end Slot

/-- Why a text is no template, or why a template is no statement. -/
inductive TemplateError where
  | unknownSlot (name : String)
  | unterminated (byte : Nat)
  | unfilled (names : List String)
  deriving DecidableEq, Repr

/-- The text of the error. -/
def TemplateError.message : TemplateError → String
  | unknownSlot name => "unknown slot '\x7b" ++ name ++ "\x7d'"
  | unterminated byte => "unterminated slot starting at byte " ++ byte.repr
  | unfilled names => "unfilled slots: " ++ ", ".intercalate names

/-- A part of a template. -/
inductive Segment where
  | text (s : String)
  | gap (slot : Slot)
  deriving DecidableEq, Repr

/-- The parts of a template in order. -/
structure Template where
  segments : List Segment
  deriving DecidableEq, Repr

namespace Template

/-! ## Reading -/

/-- Where a reader stands: in plain text, behind an opening brace whose second may
    follow, behind a closing brace whose second may follow, or in the name of a slot. -/
inductive Position where
  | text
  | opened (start : Nat)
  | closed
  | slot (start : Nat) (name : List Char)

/-- Text collected so far, the last character first, as a segment unless it is empty. -/
def textSegment (chars : List Char) : List Segment :=
  if chars.isEmpty then [] else [.text (String.ofList chars.reverse)]

/-- The slot of a name between braces; blanks around the name do not matter. -/
def slotNamed (name : List Char) : Except TemplateError Slot :=
  let name := String.ofList name.reverse
  match Slot.ofName? (Text.trim name) with
  | some slot => .ok slot
  | none => .error (.unknownSlot name)

/-- What one character does: it goes into the text or into a name, or it ends a name. -/
inductive Step where
  | more (pos : Position) (chars : List Char)
  | gap (name : List Char)

/-- A character of plain text at the offset `byte`. -/
def plainStep (byte : Nat) (chars : List Char) (c : Char) : Step :=
  if c = '\x7b' then .more (.opened byte) chars
  else if c = '\x7d' then .more .closed (c :: chars)
  else .more .text (c :: chars)

/-- A character of the name of a slot. -/
def slotStep (start : Nat) (name chars : List Char) (c : Char) : Step :=
  if c = '\x7d' then .gap name else .more (.slot start (c :: name)) chars

/-- What a character at the offset `byte` does. `chars` is the text since the last slot,
    the last character first. -/
def step (byte : Nat) (pos : Position) (chars : List Char) (c : Char) : Step :=
  match pos with
  | .text => plainStep byte chars c
  | .closed => if c = '\x7d' then .more .text chars else plainStep byte chars c
  | .opened start =>
    if c = '\x7b' then .more .text (c :: chars) else slotStep start [] chars c
  | .slot start name => slotStep start name chars c

/-- Reads the rest of a template. `byte` is the offset of the next character in UTF-8,
    `chars` the text since the last slot, the last character first. -/
def readFrom (byte : Nat) (pos : Position) (chars : List Char) :
    List Char → Except TemplateError (List Segment)
  | [] =>
    match pos with
    | .text | .closed => .ok (textSegment chars)
    | .opened start | .slot start _ => .error (.unterminated start)
  | c :: rest =>
    match step byte pos chars c with
    | .more pos chars => readFrom (byte + c.utf8Size) pos chars rest
    | .gap name => do
      let slot ← slotNamed name
      let segments ← readFrom (byte + c.utf8Size) .text [] rest
      return textSegment chars ++ .gap slot :: segments

/-- The template of a text. -/
def parse (source : String) : Except TemplateError Template :=
  match readFrom 0 .text [] source.toList with
  | .ok segments => .ok ⟨segments⟩
  | .error e => .error e

/-! ## Filling -/

/-- The texts given for slots. -/
abbrev Values := Slot → Option String

/-- The values with one more slot set. -/
def Values.set (values : Values) (slot : Slot) (text : String) : Values :=
  fun s => if s = slot then some text else values s

/-- No slot is given. -/
def Values.empty : Values := fun _ => none

/-- A segment in front of others; two texts become one. -/
def consMerged (s : Segment) (rest : List Segment) : List Segment :=
  match s, rest with
  | .text a, .text b :: rest => .text (a ++ b) :: rest
  | s, rest => s :: rest

/-- One segment with its slot filled if a value is given. -/
def Segment.fill (values : Values) : Segment → Segment
  | .text s => .text s
  | .gap slot =>
    match values slot with
    | some s => .text s
    | none => .gap slot

/-- The template with the given slots filled and the others left open. Texts side by
    side are merged. -/
def fill (t : Template) (values : Values) : Template :=
  ⟨t.segments.foldr (fun s rest => consMerged (Segment.fill values s) rest) []⟩

/-- The open slots in order of first appearance. -/
def openSlots (t : Template) : List Slot :=
  (t.segments.filterMap fun
    | .gap slot => some slot
    | .text _ => none).eraseDups

/-- Does the slot occur? -/
def has (t : Template) (slot : Slot) : Bool := t.segments.contains (.gap slot)

/-- One segment as text; an open slot is its name between braces. -/
def Segment.display : Segment → String
  | .text s => s
  | .gap slot => "\x7b" ++ slot.name ++ "\x7d"

/-- The template as text. -/
def display (t : Template) : String := String.join (t.segments.map Segment.display)

/-- The statement with the given texts, provided no slot stays open. -/
def render (t : Template) (values : Values) : Except TemplateError String :=
  let filled := t.fill values
  match filled.openSlots with
  | [] => .ok filled.display
  | slots => .error (.unfilled (slots.map Slot.name))

theorem has_iff_mem_open (t : Template) (slot : Slot) :
    t.has slot = true ↔ slot ∈ t.openSlots := by
  simp only [has, openSlots, List.mem_eraseDups, List.mem_filterMap, List.contains_iff_mem]
  constructor
  · intro h
    exact ⟨.gap slot, h, rfl⟩
  · rintro ⟨s, hs, he⟩
    cases s with
    | text s => simp at he
    | gap s' => simp only [Option.some.injEq] at he; exact he ▸ hs

end Template

end RowServe.Sql
