import RowServe.Pattern.Escape

/-!
# Classes in brackets

A class is a set of characters, written in brackets as a union of characters, ranges,
escapes, named classes of ASCII characters and other classes. Unions can be met with
`&&`, lessened with `--` and compared with `~~`, from left to right. Beside its set, a class
has a depth, which counts how its parts lie in each other.

Results:

* `contains_of_add`: what is added to a union is in it.
* `contains_apply`: an operation decides each character by its two memberships.
-/

namespace RowServe.Pattern

/-! ## Named classes -/

/-- The named classes of ASCII characters. -/
def asciiClasses : List (String × CodeSet) :=
  [("alnum", .ofRanges [(48, 57), (65, 90), (97, 122)]),
   ("alpha", .ofRanges [(65, 90), (97, 122)]),
   ("ascii", .range 0 127),
   ("blank", .ofRanges [(9, 9), (32, 32)]),
   ("cntrl", .ofRanges [(0, 31), (127, 127)]),
   ("digit", .range 48 57),
   ("graph", .range 33 126),
   ("lower", .range 97 122),
   ("print", .range 32 126),
   ("punct", .ofRanges [(33, 47), (58, 64), (91, 96), (123, 126)]),
   ("space", .ofRanges [(9, 13), (32, 32)]),
   ("upper", .range 65 90),
   ("word", CodePoint.asciiWord),
   ("xdigit", .ofRanges [(48, 57), (65, 70), (97, 102)])]

/-- Reads a named class behind an opening bracket: whether it is negated, its set and what
    follows. There is none unless colons and a known name follow. -/
def readNamed : List Char → Option (Bool × CodeSet × List Char)
  | ':' :: cs =>
    let (negated, cs) : Bool × List Char :=
      match cs with
      | '^' :: rest => (true, rest)
      | _ => (false, cs)
    let name := cs.takeWhile (· ≠ ':')
    match cs.drop name.length with
    | ':' :: ']' :: rest =>
      (asciiClasses.lookup (String.ofList name)).map fun s => (negated, s, rest)
    | _ => none
  | _ => none

/-! ## Unions and operations -/

/-- A set with the depth of its text. -/
structure DeepSet where
  set : CodeSet
  depth : Nat

/-- What two unions are combined with. -/
inductive Operation where
  | inter | diff | symmDiff
  deriving DecidableEq, Repr

/-- The result of an operation. -/
def Operation.apply : Operation → CodeSet → CodeSet → CodeSet
  | inter, s, t => s.inter t
  | diff, s, t => s.diff t
  | symmDiff, s, t => s.symmDiff t

/-- A union with the number of its parts and the largest of their depths. -/
structure Parts where
  set : CodeSet
  count : Nat
  depth : Nat

/-- No parts. -/
def Parts.empty : Parts := ⟨.empty, 0, 0⟩

/-- One more part. -/
def Parts.add (p : Parts) (s : DeepSet) : Parts :=
  ⟨p.set.union s.set, p.count + 1, Nat.max p.depth s.depth⟩

/-- The union; several parts make it deeper. -/
def Parts.close (p : Parts) : DeepSet := ⟨p.set, if p.count ≤ 1 then p.depth else p.depth + 1⟩

/-- A class up to some sign: what stands before the last operation, and the union behind it. -/
structure OpenClass where
  left : Option (DeepSet × Operation)
  parts : Parts

/-- One more part. -/
def OpenClass.add (c : OpenClass) (s : CodeSet) (depth : Nat) : OpenClass :=
  { c with parts := c.parts.add ⟨s, depth⟩ }

/-- What has been read, with the last operation done. Both of its sides are taken in both cases
    if the flags say so. -/
def OpenClass.value (f : Flags) (c : OpenClass) : DeepSet :=
  let right := c.parts.close
  match c.left with
  | none => right
  | some (left, op) =>
    ⟨op.apply (f.fold left.set) (f.fold right.set), Nat.max left.depth right.depth + 1⟩

/-- The sign of an operation follows. -/
def OpenClass.operate (f : Flags) (c : OpenClass) (op : Operation) : OpenClass :=
  ⟨some (c.value f, op), .empty⟩

/-- The closing bracket follows. -/
def OpenClass.close (f : Flags) (negated : Bool) (c : OpenClass) : Option DeepSet :=
  let value := c.value f
  (f.negate negated (f.fold value.set)).map fun s => ⟨s, value.depth + 1⟩

/-! ## Reading -/

/-- The character of a class; without `u`, it has to be ASCII. -/
def Flags.classChar (f : Flags) (c : Char) : Option Char :=
  if !f.unicode && 128 ≤ c.toNat then none else some c

/-- One sign of a class: a character or a set. -/
def readSign (f : Flags) : List Char → Option ((Char ⊕ CodeSet) × List Char)
  | [] => none
  | '\\' :: rest => do
    match ← readEscape f rest with
    | (.char c, rest) => return (.inl (← f.classChar c), rest)
    | (.set s, rest) => return (.inr s, rest)
    | (.anchor _, _) => none
  | c :: rest => (f.classChar c).map fun c => (.inl c, rest)

/-- A range or a single sign. A dash before the closing bracket or another dash makes no
    range. -/
def readRange (f : Flags) (cs : List Char) : Option (CodeSet × List Char) := do
  let (first, rest) ← readSign f cs
  let rest := f.skip rest
  match rest with
  | '-' :: more =>
    if f.peek more = some ']' ∨ f.peek more = some '-' then return (single first, rest)
    else
      match first, ← readSign f (f.skip more) with
      | .inl a, (.inl b, rest) =>
        if a.toNat ≤ b.toNat then return (.range a.toNat b.toNat, rest) else none
      | _, _ => none
  | _ => return (single first, rest)
where
  /-- The set of one sign. -/
  single : Char ⊕ CodeSet → CodeSet
    | .inl c => .single c.toNat
    | .inr s => s

/-- The dashes at the start of a class, which count as characters, and what follows. -/
def leadingDashes (f : Flags) : Nat → Nat → List Char → Nat × List Char
  | 0, n, cs => (n, cs)
  | fuel + 1, n, cs =>
    match f.skip cs with
    | '-' :: rest => leadingDashes f fuel (n + 1) rest
    | cs => (n, cs)

/-- Reads the start of a class behind its bracket: whether it is negated, and the characters
    that count there. A closing bracket counts as one where no dash is before it. -/
def readStart (f : Flags) (cs : List Char) : Bool × OpenClass × List Char :=
  let (negated, cs) : Bool × List Char :=
    match f.skip cs with
    | '^' :: rest => (true, rest)
    | cs => (false, cs)
  let (dashes, cs) := leadingDashes f (cs.length + 1) 0 cs
  let start : OpenClass := ⟨none, .empty⟩
  match dashes, cs with
  | 0, ']' :: rest => (negated, start.add (.single 0x5D) 0, rest)
  | 0, cs => (negated, start, cs)
  | n, cs => (negated, ⟨none, ⟨.single 0x2D, n, 0⟩⟩, cs)

/-- Reads a class up to its closing bracket. `room` more classes may be open at a time. -/
def readClass (f : Flags) (fuel room : Nat) (negated : Bool) (c : OpenClass) (cs : List Char) :
    Option (DeepSet × List Char) :=
  match fuel with
  | 0 => none
  | fuel + 1 =>
    match f.skip cs with
    | [] => none
    | ']' :: rest => (c.close f negated).map (·, rest)
    | '[' :: rest =>
      match readNamed rest, room with
      | some (inverse, s, rest), _ =>
        match f.negate inverse (f.fold s) with
        | some s => readClass f fuel room negated (c.add s 0) rest
        | none => none
      | none, 0 => none
      | none, room + 1 =>
        let (inner, start, rest) := readStart f rest
        match readClass f fuel room inner start rest with
        | some (s, rest) => readClass f fuel (room + 1) negated (c.add s.set s.depth) rest
        | none => none
    | '&' :: '&' :: rest => readClass f fuel room negated (c.operate f .inter) rest
    | '-' :: '-' :: rest => readClass f fuel room negated (c.operate f .diff) rest
    | '~' :: '~' :: rest => readClass f fuel room negated (c.operate f .symmDiff) rest
    | cs =>
      match readRange f cs with
      | some (s, rest) => readClass f fuel room negated (c.add s 0) rest
      | none => none

theorem contains_apply (o : Operation) (s t : CodeSet) (c : Nat) :
    (o.apply s t).contains c =
      match o with
      | .inter => s.contains c && t.contains c
      | .diff => s.contains c && !t.contains c
      | .symmDiff => s.contains c != t.contains c := by
  cases o with
  | inter => exact CodeSet.contains_inter s t c
  | diff => exact CodeSet.contains_diff s t c
  | symmDiff => exact CodeSet.contains_combine rfl s t c

theorem contains_of_add (p : Parts) (s : DeepSet) {c : Nat} (h : s.set.contains c = true) :
    (p.add s).set.contains c = true := by
  simp [Parts.add, CodeSet.contains_union, h]

end RowServe.Pattern
