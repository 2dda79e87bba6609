import RowServe.CodePoint.Name
import RowServe.Pattern.Flags
import RowServe.Text.Split

/-!
# Escapes

What a backslash and the signs behind it stand for: a character, a set of characters or a
condition on a place. Digits are refused, and so are letters without a meaning and
everything beyond ASCII; other ASCII signs stand for themselves.

Results:

* `readEscape_refused`: digits and everything beyond ASCII are refused.
-/

namespace RowServe.Pattern

/-- What an escape stands for. -/
inductive Escape where
  | char (c : Char)
  | set (s : CodeSet)
  | anchor (a : Anchor)

/-! ## Characters by number -/

/-- The value of a hexadecimal digit. -/
def hexDigit? (c : Char) : Option Nat :=
  if '0' ≤ c ∧ c ≤ '9' then some (c.toNat - 48)
  else if 'a' ≤ c ∧ c ≤ 'f' then some (c.toNat - 87)
  else if 'A' ≤ c ∧ c ≤ 'F' then some (c.toNat - 55)
  else none

/-- The character of hexadecimal digits. -/
def hexChar? (digits : List Char) : Option Char := do
  if digits.isEmpty then none
  let n ← digits.foldlM (fun n c => (hexDigit? c).map (n * 16 + ·)) 0
  if n.isValidChar then return Char.ofNat n else none

/-- So many signs, and what follows them. -/
def takeSigns (f : Flags) : Nat → List Char → Option (List Char × List Char)
  | 0, cs => some ([], cs)
  | n + 1, cs =>
    match f.skip cs with
    | [] => none
    | c :: rest => (takeSigns f n rest).map fun (signs, rest) => (c :: signs, rest)

/-- The signs up to a closing brace, and what follows it. -/
def untilBrace (f : Flags) (inComment : Bool) : List Char → Option (List Char × List Char)
  | [] => none
  | c :: rest =>
    if inComment then untilBrace f (c ≠ '\n') rest
    else if f.spaced && Text.isBlank c then untilBrace f false rest
    else if f.spaced && c = '#' then untilBrace f true rest
    else if c = '\x7d' then some ([], rest)
    else (untilBrace f false rest).map fun (signs, rest) => (c :: signs, rest)

/-- A character given by its number: `width` digits, or any number of them in braces. Two
    digits without braces are a byte, which has to be ASCII where `u` is off. -/
def readCode (f : Flags) (width : Nat) (cs : List Char) : Option (Char × List Char) :=
  match f.skip cs with
  | '\x7b' :: rest => do
    let (digits, rest) ← untilBrace f false rest
    return (← hexChar? digits, rest)
  | rest => do
    let (digits, rest) ← takeSigns f width rest
    let c ← hexChar? digits
    if width = 2 && !f.unicode && 128 ≤ c.toNat then none else return (c, rest)

/-! ## Properties -/

/-- What stands before and behind the first unequal sign. -/
def splitUnequal : List Char → Option (List Char × List Char)
  | '!' :: '=' :: rest => some ([], rest)
  | c :: rest => (splitUnequal rest).map fun (before, after) => (c :: before, after)
  | [] => none

/-- The set of a property, written as a name or as a property and its value. All signs between
    the two mean the same. -/
def propertySet? (name : List Char) : Option CodeSet :=
  match splitUnequal name <|> Text.splitOnce ':' name <|> Text.splitOnce '=' name with
  | some (property, value) =>
    CodePoint.ofValue? (String.ofList property) (String.ofList value)
  | none => CodePoint.ofName? (String.ofList name)

/-- The name of a property: one sign, or any number of them in braces. -/
def readPropertyName (f : Flags) (cs : List Char) : Option (List Char × List Char) :=
  match f.skip cs with
  | [] => none
  | '\\' :: _ => none
  | '\x7b' :: rest => untilBrace f false rest
  | c :: rest => some ([c], rest)

/-- A property, or everything without it. -/
def readProperty (f : Flags) (negated : Bool) (cs : List Char) :
    Option (CodeSet × List Char) := do
  let (name, rest) ← readPropertyName f cs
  if f.unicode then
    let s ← f.negate negated (f.fold (← propertySet? name))
    return (s, rest)
  else none

/-! ## Edges of words -/

/-- The edges of words that have a name. -/
def edgeNames : List (String × WordEdge) :=
  [("start", .start), ("end", .stop), ("start-half", .startHalf), ("end-half", .stopHalf)]

/-- May the character be in the name of an edge? -/
def isEdgeLetter (c : Char) : Bool := c.isAlpha || c = '-'

/-- An edge of words, named in braces if a letter or a dash follows the brace; other braces are
    left for a repetition. -/
def readEdge (f : Flags) (cs : List Char) : Option (WordEdge × List Char) :=
  match cs with
  | '\x7b' :: rest =>
    match f.skip rest with
    | [] => none
    | c :: _ =>
      if isEdgeLetter c then do
        let (name, rest) ← untilBrace f false rest
        let edge ← edgeNames.lookup (String.ofList name)
        return (edge, rest)
      else some (.boundary, cs)
  | _ => some (.boundary, cs)

/-! ## All escapes -/

/-- The classes of one letter, and whether the letter names all other characters. -/
def classLetter? (f : Flags) (c : Char) : Option (Bool × CodeSet) :=
  match c with
  | 'd' => some (false, f.decimal)
  | 'D' => some (true, f.decimal)
  | 'w' => some (false, f.word)
  | 'W' => some (true, f.word)
  | 's' => some (false, f.blank)
  | 'S' => some (true, f.blank)
  | _ => none

/-- The conditions of one sign. -/
def anchorSign? (f : Flags) (c : Char) : Option Anchor :=
  match c with
  | 'B' => some (f.wordEdge .inner)
  | '<' => some (f.wordEdge .start)
  | '>' => some (f.wordEdge .stop)
  | 'A' => some .start
  | 'z' => some .stop
  | _ => none

/-- The control characters of one letter. -/
def controlLetter? (c : Char) : Option Char :=
  match c with
  | 'a' => some '\x07'
  | 'f' => some '\x0c'
  | 't' => some '\t'
  | 'n' => some '\n'
  | 'r' => some '\r'
  | 'v' => some '\x0b'
  | _ => none

/-- The number of digits of a character given by its number. -/
def codeWidth? (c : Char) : Option Nat :=
  match c with
  | 'x' => some 2
  | 'u' => some 4
  | 'U' => some 8
  | _ => none

/-- Does the sign stand for itself behind a backslash? -/
def standsForItself (c : Char) : Bool :=
  c.toNat < 128 && !c.isAlphanum && c != '<' && c != '>'

/-- Reads what follows a backslash. -/
def readEscape (f : Flags) : List Char → Option (Escape × List Char)
  | [] => none
  | c :: rest =>
    if standsForItself c then some (.char c, rest)
    else if c = 'p' ∨ c = 'P' then
      (readProperty f (c = 'P') rest).map fun (s, rest) => (.set s, rest)
    else if c = 'b' then
      (readEdge f rest).map fun (edge, rest) => (.anchor (f.wordEdge edge), rest)
    else
      match codeWidth? c, classLetter? f c, anchorSign? f c, controlLetter? c with
      | some width, _, _, _ => (readCode f width rest).map fun (d, rest) => (.char d, rest)
      | _, some (negated, s), _, _ => (f.negate negated s).map fun s => (.set s, rest)
      | _, _, some a, _ => some (.anchor a, rest)
      | _, _, _, some d => some (.char d, rest)
      | _, _, _, _ => none

theorem meaningless (f : Flags) {c : Char} (h : c.isDigit = true ∨ 128 ≤ c.toNat) :
    codeWidth? c = none ∧ classLetter? f c = none ∧ anchorSign? f c = none ∧
      controlLetter? c = none := by
  refine ⟨?_, ?_, ?_, ?_⟩
  · unfold codeWidth?
    split <;> first | rfl | exact absurd h (by decide)
  · unfold classLetter?
    split <;> first | rfl | exact absurd h (by decide)
  · unfold anchorSign?
    split <;> first | rfl | exact absurd h (by decide)
  · unfold controlLetter?
    split <;> first | rfl | exact absurd h (by decide)

theorem readEscape_refused (f : Flags) {c : Char} (h : c.isDigit = true ∨ 128 ≤ c.toNat)
    (rest : List Char) : readEscape f (c :: rest) = none := by
  obtain ⟨hcode, hclass, hanchor, hcontrol⟩ := meaningless f h
  have hitself : ¬ standsForItself c = true := by
    unfold standsForItself
    rcases h with h | h
    · simp [Char.isAlphanum, h]
    · simp [Nat.not_lt.mpr h]
  have hproperty : ¬ (c = 'p' ∨ c = 'P') := by
    rintro (rfl | rfl) <;> exact absurd h (by decide)
  have hedge : c ≠ 'b' := by
    rintro rfl
    exact absurd h (by decide)
  rw [readEscape, if_neg hitself, if_neg hproperty, if_neg hedge, hcode, hclass, hanchor, hcontrol]

end RowServe.Pattern
