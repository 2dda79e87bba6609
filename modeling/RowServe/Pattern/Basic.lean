import RowServe.CodePoint.Letter

/-!
# Search patterns

Regular expressions over characters, and the search for a place where one matches. A
text has a place before each character and one behind the last. A set of places is a row
of marks, one for each place, and the meaning of a pattern is a map of such rows: from the
places where a match starts to the places where one ends.

Results:

* `iterate_eq_repeat`: a run of equal steps may end as soon as a step changes nothing.
* `isMatch_empty`: the empty pattern matches in every text.
-/

namespace RowServe

/-! ## Conditions on places -/

/-- A place in a text, by the characters around it. -/
structure Place where
  before : Option Char
  after : Option Char
  deriving DecidableEq, Repr

/-- The places from one on, given the character before it and those behind it. -/
def placesFrom (before : Option Char) : List Char → List Place
  | [] => [⟨before, none⟩]
  | c :: rest => ⟨before, some c⟩ :: placesFrom (some c) rest

/-- The places of a text. -/
def places (text : List Char) : List Place := placesFrom none text

/-- How a place lies to the words around it. -/
inductive WordEdge where
  /-- Between a word and something else. -/
  | boundary
  /-- Not between a word and something else. -/
  | inner
  | start
  | stop
  /-- Not behind a word. -/
  | startHalf
  /-- Not before a word. -/
  | stopHalf
  deriving DecidableEq, Repr

/-- Does the condition hold, given whether a word is before and behind the place? -/
def WordEdge.holds (before after : Bool) : WordEdge → Bool
  | boundary => before != after
  | inner => before == after
  | start => !before && after
  | stop => before && !after
  | startHalf => !before
  | stopHalf => !after

/-- A condition on a place. -/
inductive Anchor where
  | start
  | stop
  /-- The start of a line; lines end at a line feed, or also at a carriage return. -/
  | lineStart (carriage : Bool)
  | lineStop (carriage : Bool)
  /-- An edge of words, which are made of ASCII characters only or of all. -/
  | word (ascii : Bool) (edge : WordEdge)
  deriving DecidableEq, Repr

/-- Is there a word character? -/
def isWordAt (ascii : Bool) (c : Option Char) : Bool :=
  c.any (if ascii then CodePoint.asciiWord else CodePoint.word).containsChar

/-- Does the place meet the condition? A carriage return and the line feed behind it end a
    line together. -/
def Anchor.holds (p : Place) : Anchor → Bool
  | start => p.before.isNone
  | stop => p.after.isNone
  | lineStart false => p.before.all (· == '\n')
  | lineStart true =>
    p.before.all fun c => c == '\n' || (c == '\r' && p.after != some '\n')
  | lineStop false => p.after.all (· == '\n')
  | lineStop true =>
    p.after.all fun c => c == '\r' || (c == '\n' && p.before != some '\r')
  | word ascii edge => edge.holds (isWordAt ascii p.before) (isWordAt ascii p.after)

/-! ## Patterns -/

/-- A search pattern. -/
inductive Pattern where
  | empty
  | set (s : CodeSet)
  | anchor (a : Anchor)
  /-- A part whose match is kept. -/
  | group (p : Pattern)
  | seq (p q : Pattern)
  | alt (p q : Pattern)
  | times (p : Pattern) (min : Nat) (max : Option Nat)
  deriving DecidableEq

namespace Pattern

/-- Can the pattern match the empty text only, whatever it matches? -/
def onlyEmpty : Pattern → Bool
  | empty => true
  | set _ => false
  | anchor _ => true
  | group p => p.onlyEmpty
  | seq p q => p.onlyEmpty && q.onlyEmpty
  | alt p q => p.onlyEmpty && q.onlyEmpty
  | times p _ max => p.onlyEmpty && max.isSome

/-- The pattern repeated. A part that matches the empty text only is not repeated more
    than once, and no or one repetition needs none. -/
def repeated (p : Pattern) (min : Nat) (max : Option Nat) : Pattern :=
  let low := if p.onlyEmpty then Nat.min min 1 else min
  let high := if p.onlyEmpty then some (Nat.min (max.getD 1) 1) else max
  if high = some 0 then empty
  else if low = 1 ∧ high = some 1 then p
  else times p low high

/-- The patterns one after the other; empty ones are left out. -/
def sequence (ps : List Pattern) : Pattern :=
  ps.foldr (fun p rest => if p = empty then rest else if rest = empty then p else seq p rest) empty

/-- The set of a pattern that matches one character. -/
def set? : Pattern → Option CodeSet
  | set s => some s
  | _ => none

/-- A choice between a pattern and others. -/
def oneOf (p : Pattern) : List Pattern → Pattern
  | [] => p
  | q :: rest => alt p (oneOf q rest)

/-- A choice between a pattern and others; a choice between characters is one set. -/
def choice (p : Pattern) (others : List Pattern) : Pattern :=
  match (p :: others).mapM set? with
  | some sets => set (.unions sets)
  | none => oneOf p others

/-! ## Matching -/

/-- The result of equal steps, up to `n` of them. A step that changes nothing is the last. -/
def iterate (step : List Bool → List Bool) : Nat → List Bool → List Bool
  | 0, marks => marks
  | n + 1, marks =>
    let next := step marks
    if next = marks then marks else iterate step n next

/-- The places marked in one of two rows. -/
def either (a b : List Bool) : List Bool := List.zipWith (· || ·) a b

/-- What no to `n` steps reach. -/
def within (step : List Bool → List Bool) (n : Nat) (marks : List Bool) : List Bool :=
  iterate (fun marks => either marks (step marks)) n marks

/-- The places behind a character of the set that stands at a marked place. -/
def advance (s : CodeSet) (text : List Char) (marks : List Bool) : List Bool :=
  false :: List.zipWith (fun mark c => mark && s.containsChar c) marks text

/-- The places that any number of characters of the set lead to. `carried` says that the
    first place is reached from before. -/
def spread (s : CodeSet) (carried : Bool) : List Char → List Bool → List Bool
  | _, [] => []
  | [], mark :: rest => (carried || mark) :: rest
  | c :: text, mark :: rest =>
    let here := carried || mark
    here :: spread s (here && s.containsChar c) text rest

/-- Where matches of the pattern end that start at a marked place. -/
def ends (text : List Char) : Pattern → List Bool → List Bool
  | empty, marks => marks
  | set s, marks => advance s text marks
  | anchor a, marks => List.zipWith (fun mark p => mark && a.holds p) marks (places text)
  | group p, marks => ends text p marks
  | seq p q, marks => ends text q (ends text p marks)
  | alt p q, marks => either (ends text p marks) (ends text q marks)
  | times (set s) min none, marks => spread s false text (iterate (advance s text) min marks)
  | times p min (some max), marks =>
    within (ends text p) (max - min) (iterate (ends text p) min marks)
  | times p min none, marks =>
    within (ends text p) (text.length + 1) (iterate (ends text p) min marks)

/-- Does the pattern match somewhere in the text? -/
def isMatch (p : Pattern) (s : String) : Bool :=
  let text := s.toList
  (ends text p (List.replicate (text.length + 1) true)).any id

theorem iterate_of_fixed {step : List Bool → List Bool} {marks : List Bool}
    (h : step marks = marks) (n : Nat) : iterate step n marks = marks := by
  cases n <;> simp [iterate, h]

theorem iterate_eq_repeat (step : List Bool → List Bool) (n : Nat) (marks : List Bool) :
    iterate step n marks = Nat.repeat step n marks := by
  have inside : ∀ n (marks : List Bool), Nat.repeat step (n + 1) marks =
      Nat.repeat step n (step marks) := by
    intro n
    induction n with
    | zero => intro marks; rfl
    | succ n ih => intro marks; exact congrArg step (ih marks)
  induction n generalizing marks with
  | zero => rfl
  | succ n ih =>
    rw [inside]
    simp only [iterate]
    split
    · rename_i h
      rw [h, ← ih, iterate_of_fixed h]
    · exact ih (step marks)

theorem isMatch_empty (s : String) : isMatch empty s = true := by
  simp [isMatch, ends, List.replicate_succ]

end Pattern

end RowServe
