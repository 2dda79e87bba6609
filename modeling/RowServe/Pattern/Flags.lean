import RowServe.Pattern.Basic
import RowServe.Text.Blank
import RowServe.Text.CaseFold

/-!
# Flags of patterns

The letters in `(?im-s)` switch readings of what follows on, and off behind a dash: `i` both
cases, `m` anchors at lines, `s` a dot for every character, `R` lines that end at carriage
returns too, `x` blanks and comments between signs, `u` characters beyond ASCII, which is on at
first, and `U`, which only picks among matches.

Results:

* `contains_fold`: whatever the flags, folding keeps what a set holds.
-/

namespace RowServe.Pattern

/-- How the signs of a pattern are read. -/
structure Flags where
  ignoreCase : Bool
  multiLine : Bool
  dotAll : Bool
  carriage : Bool
  spaced : Bool
  unicode : Bool
  deriving DecidableEq, Repr

/-- The flags at the start of a pattern. -/
def Flags.initial : Flags := ⟨false, false, false, false, false, true⟩

/-- Switches one flag. -/
def Flags.switch (f : Flags) (on : Bool) (letter : Char) : Option Flags :=
  match letter with
  | 'i' => some { f with ignoreCase := on }
  | 'm' => some { f with multiLine := on }
  | 's' => some { f with dotAll := on }
  | 'R' => some { f with carriage := on }
  | 'x' => some { f with spaced := on }
  | 'u' => some { f with unicode := on }
  | 'U' => some f
  | _ => none

/-- Switches the flags of some letters. No sign may stand twice, and a dash has a letter behind
    it. -/
def Flags.change (f : Flags) (letters : List Char) : Option Flags :=
  if letters.eraseDups.length ≠ letters.length ∨ letters.getLast? = some '-' then none
  else do
    let f ← (letters.takeWhile (· ≠ '-')).foldlM (fun f c => f.switch true c) f
    ((letters.dropWhile (· ≠ '-')).drop 1).foldlM (fun f c => f.switch false c) f

/-! ## Blanks and comments -/

/-- Drops blanks, and comments from a number sign to the end of the line. -/
def skipBlanks (inComment : Bool) : List Char → List Char
  | [] => []
  | c :: rest =>
    if inComment then skipBlanks (c ≠ '\n') rest
    else if Text.isBlank c then skipBlanks false rest
    else if c = '#' then skipBlanks true rest
    else c :: rest

/-- Drops what may stand between two signs. -/
def Flags.skip (f : Flags) (cs : List Char) : List Char :=
  if f.spaced then skipBlanks false cs else cs

/-- The next sign of a class behind what may stand between two signs. Of a comment, only its
    number sign is passed over. -/
def Flags.peek (f : Flags) (cs : List Char) : Option Char :=
  if f.spaced then
    let first := cs.dropWhile Text.isBlank
    let next :=
      match first with
      | '#' :: rest => rest.dropWhile Text.isBlank
      | _ => first
    (next.head?.or cs.head?)
  else cs.head?

/-! ## Sets under flags -/

/-- Takes in both cases if the flags say so. -/
def Flags.fold (f : Flags) (s : CodeSet) : CodeSet :=
  if f.ignoreCase then if f.unicode then Text.anyCase s else Text.anyAsciiCase s else s

/-- The set or, if negated, everything else. Without `u`, that would be more than ASCII, which
    is refused. -/
def Flags.negate (f : Flags) (negated : Bool) (s : CodeSet) : Option CodeSet :=
  if negated then if f.unicode then some s.complement else none else some s

/-- One character, in both cases if the flags say so. -/
def Flags.literal (f : Flags) (c : Char) : Pattern :=
  .set (f.fold (.single c.toNat))

/-- What a dot stands for: every character but those that end a line. -/
def Flags.dot (f : Flags) : Option Pattern :=
  if !f.unicode then none
  else if f.dotAll then some (.set .all)
  else
    let ends := if f.carriage then [0xA, 0xD] else [0xA]
    some (.set (CodeSet.complement (.unions (ends.map CodeSet.single))))

/-- The decimal digits. -/
def Flags.decimal (f : Flags) : CodeSet :=
  if f.unicode then CodePoint.decimal else .range 48 57

/-- The characters of words. -/
def Flags.word (f : Flags) : CodeSet := if f.unicode then CodePoint.word else CodePoint.asciiWord

/-- The blanks. -/
def Flags.blank (f : Flags) : CodeSet :=
  if f.unicode then CodePoint.whiteSpace else .ofRanges [(9, 13), (32, 32)]

/-- An edge of words. -/
def Flags.wordEdge (f : Flags) (edge : WordEdge) : Anchor := .word (!f.unicode) edge

theorem contains_fold (f : Flags) {s : CodeSet} {c : Nat} (h : s.contains c = true) :
    (f.fold s).contains c = true := by
  unfold Flags.fold
  split
  · split
    · exact Text.contains_anyCase_of_contains s c h
    · simp [Text.anyAsciiCase, CodeSet.contains_union, h]
  · exact h

end RowServe.Pattern
