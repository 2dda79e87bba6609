import RowServe.Pattern.Class
import RowServe.Pattern.Size

/-!
# Reading search patterns

The syntax of patterns: characters, dots, escapes, classes, anchors, groups, alternatives,
repetitions and flags. Refused are unbalanced brackets, a repetition of nothing, reversed
ranges and counts, look-around, back-references, two groups of one name, parts that lie too
deep in each other, and patterns that are too large for a search.

Results:

* `isWithinLimit_of_parse?`: every pattern that is read is small enough.
-/

namespace RowServe.Pattern

/-! ## Repetitions -/

/-- The digits at the start of a text, between which there may be what the flags let stand
    between two signs. -/
def takeDigits (f : Flags) : Nat → List Char → List Char × List Char
  | 0, cs => ([], cs)
  | fuel + 1, cs =>
    match cs with
    | c :: rest =>
      if c.isDigit then
        let (digits, rest) := takeDigits f fuel (f.skip rest)
        (c :: digits, rest)
      else ([], cs)
    | [] => ([], [])

/-- Drops blanks, and what the flags let stand behind each of them. -/
def dropBlanks (f : Flags) : Nat → List Char → List Char
  | 0, cs => cs
  | fuel + 1, cs =>
    match cs with
    | c :: rest => if Text.isBlank c then dropBlanks f fuel (f.skip rest) else cs
    | [] => []

/-- A number of at most 32 bits with blanks around it. -/
def readCount (f : Flags) (cs : List Char) : Option (Nat × List Char) :=
  let (digits, rest) := takeDigits f (cs.length + 1) (cs.dropWhile Text.isBlank)
  if digits.isEmpty then none
  else
    let n := digits.foldl (fun n c => n * 10 + (c.toNat - 48)) 0
    if n < 0x100000000 then some (n, dropBlanks f (rest.length + 1) rest) else none

/-- How often a part is repeated: from one number up to another, or without end. -/
structure Counts where
  min : Nat
  max : Option Nat
  deriving DecidableEq, Repr

/-- The counts behind an opening brace: exactly, at least, or from one number to another. -/
def readCounts (f : Flags) (cs : List Char) : Option (Counts × List Char) := do
  let (low, rest) ← readCount f (f.skip cs)
  match rest with
  | '\x7d' :: rest => return (⟨low, some low⟩, rest)
  | ',' :: rest =>
    match f.skip rest with
    | '\x7d' :: rest => return (⟨low, none⟩, rest)
    | rest =>
      match ← readCount f rest with
      | (high, '\x7d' :: rest) => if low ≤ high then return (⟨low, some high⟩, rest) else none
      | _ => none
  | _ => none

/-- Drops the mark of a repetition that prefers few rounds: it changes which match is
    found, not whether there is one. -/
def dropLazy : List Char → List Char
  | '?' :: rest => rest
  | cs => cs

/-- Reads a repetition sign. The outer `none` says that there is none, the inner one
    that it is malformed. -/
def readRepetition (f : Flags) : List Char → Option (Option (Counts × List Char))
  | '*' :: rest => some (some (⟨0, none⟩, dropLazy rest))
  | '+' :: rest => some (some (⟨1, none⟩, dropLazy rest))
  | '?' :: rest => some (some (⟨0, some 1⟩, dropLazy rest))
  | '\x7b' :: rest =>
    some ((readCounts f rest).map fun (counts, rest) => (counts, dropLazy (f.skip rest)))
  | _ => none

/-! ## Groups -/

/-- May the character start the name of a group? -/
def isNameStart (c : Char) : Bool := c = '_' || CodePoint.isAlphabetic c

/-- May the character be in the name of a group? -/
def isNameChar (c : Char) : Bool :=
  c = '_' || c = '.' || c = '[' || c = ']' || CodePoint.isAlphanumeric c

/-- The name of a group up to the closing angle. -/
def readName (cs : List Char) : Option (List Char × List Char) :=
  let name := cs.takeWhile (· ≠ '>')
  match name, cs.drop name.length with
  | c :: more, '>' :: rest =>
    if isNameStart c && more.all isNameChar then some (name, rest) else none
  | _, _ => none

/-- How a parenthesis opens. -/
inductive Opening where
  /-- A group whose match is kept, maybe under a name. -/
  | kept (name : Option (List Char))
  /-- A group that only holds its parts together, under flags of its own. -/
  | plain (flags : Flags)
  /-- No group, but new flags for the rest of the group around. -/
  | change (flags : Flags)

/-- Reads what follows an opening parenthesis. -/
def readOpening (f : Flags) (cs : List Char) : Option (Opening × List Char) :=
  match f.skip cs with
  | '?' :: 'P' :: '<' :: rest => (readName rest).map fun (name, rest) => (.kept (some name), rest)
  | '?' :: '<' :: rest => (readName rest).map fun (name, rest) => (.kept (some name), rest)
  | '?' :: rest =>
    let letters := rest.takeWhile fun c => c ≠ ':' && c ≠ ')'
    match f.change letters, rest.drop letters.length with
    | some g, ':' :: rest => some (.plain g, rest)
    | some g, ')' :: rest => if letters.isEmpty then none else some (.change g, rest)
    | _, _ => none
  | rest => some (.kept none, rest)

/-! ## Parts of a pattern -/

/-- A part with its depth. A change of flags is a part without a pattern. -/
structure Item where
  pattern : Option Pattern
  depth : Nat

/-- One alternative with its depth. -/
structure Alternative where
  pattern : Pattern
  depth : Nat

/-- The items of an alternative, the last one first. Several items lie deeper than one. -/
def Alternative.ofItems (items : List Item) : Alternative :=
  let depth := (items.map (·.depth)).foldl Nat.max 0
  ⟨sequence (items.reverse.filterMap (·.pattern)), if items.length ≤ 1 then depth else depth + 1⟩

/-- A last alternative behind others, the last of which stands first. -/
def Alternative.ofChoice (last : Alternative) (before : List Alternative) : Alternative :=
  match (last :: before).reverse with
  | [] => last
  | [a] => a
  | a :: rest =>
    ⟨choice a.pattern (rest.map (·.pattern)),
      ((a :: rest).map (·.depth)).foldl Nat.max 0 + 1⟩

/-- The largest depth of a pattern. -/
def depthLimit : Nat := 250

/-- A pattern read up to its end, with the group names so far and what follows. -/
structure Reading where
  value : Alternative
  names : List (List Char)
  rest : List Char

/-- One sign outside of classes that is no bracket and no sign of repetition. -/
def readAtom (f : Flags) : List Char → Option (Pattern × List Char)
  | [] => none
  | '\\' :: rest => do
    match ← readEscape f rest with
    | (.char c, rest) => return (f.literal c, rest)
    | (.set s, rest) => return (.set s, rest)
    | (.anchor a, rest) => return (.anchor a, rest)
  | '.' :: rest => f.dot.map (·, rest)
  | '^' :: rest => some (.anchor (if f.multiLine then .lineStart f.carriage else .start), rest)
  | '$' :: rest => some (.anchor (if f.multiLine then .lineStop f.carriage else .stop), rest)
  | c :: rest => some (f.literal c, rest)

/-- Reads up to the end of the text or to a closing parenthesis, which is kept. `room` more
    groups may be open at a time. -/
def readFrom (fuel room : Nat) (f : Flags) (names : List (List Char))
    (before : List Alternative) (items : List Item) (cs : List Char) : Option Reading :=
  match fuel with
  | 0 => none
  | fuel + 1 =>
    let cs := f.skip cs
    match readRepetition f cs with
    | some none => none
    | some (some (counts, rest)) =>
      match items with
      | ⟨some p, depth⟩ :: items =>
        let item : Item := ⟨some (p.repeated counts.min counts.max), depth + 1⟩
        readFrom fuel room f names before (item :: items) rest
      | _ => none
    | none =>
      match cs with
      | [] => some ⟨(Alternative.ofItems items).ofChoice before, names, []⟩
      | ')' :: _ => some ⟨(Alternative.ofItems items).ofChoice before, names, cs⟩
      | '|' :: rest => readFrom fuel room f names (.ofItems items :: before) [] rest
      | '[' :: rest =>
        let (negated, start, rest) := readStart f rest
        match readClass f fuel depthLimit negated start rest with
        | some (s, rest) =>
          readFrom fuel room f names before (⟨some (.set s.set), s.depth⟩ :: items) rest
        | none => none
      | '(' :: rest =>
        match readOpening f rest, room with
        | some (.change g, rest), _ =>
          readFrom fuel room g names before (⟨none, 0⟩ :: items) rest
        | some (.kept name, rest), room + 1 =>
          if name.any names.contains then none
          else
            match readFrom fuel room f (name.toList ++ names) [] [] rest with
            | some ⟨p, names, ')' :: rest⟩ =>
              let item : Item := ⟨some (.group p.pattern), p.depth + 1⟩
              readFrom fuel (room + 1) f names before (item :: items) rest
            | _ => none
        | some (.plain g, rest), room + 1 =>
          match readFrom fuel room g names [] [] rest with
          | some ⟨p, names, ')' :: rest⟩ =>
            let item : Item := ⟨some p.pattern, p.depth + 1⟩
            readFrom fuel (room + 1) f names before (item :: items) rest
          | _ => none
        | _, _ => none
      | cs =>
        match readAtom f cs with
        | some (p, rest) => readFrom fuel room f names before (⟨some p, 0⟩ :: items) rest
        | none => none

/-- The pattern of a text, `none` if it is refused. -/
def parse? (s : String) : Option Pattern :=
  let cs := s.toList
  match readFrom (2 * cs.length + 2) (depthLimit + 1) .initial [] [] [] cs with
  | some ⟨value, _, []⟩ =>
    if value.depth ≤ depthLimit && isWithinLimit value.pattern then some value.pattern else none
  | _ => none

theorem isWithinLimit_of_parse? {s : String} {p : Pattern} (h : parse? s = some p) :
    isWithinLimit p = true := by
  simp only [parse?] at h
  split at h
  · split at h
    · rename_i small
      rw [Bool.and_eq_true] at small
      obtain rfl := Option.some.inj h
      exact small.2
    · exact absurd h (by simp)
  · exact absurd h (by simp)

end RowServe.Pattern
