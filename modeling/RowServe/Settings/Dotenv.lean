import RowServe.Keyed
import RowServe.Text.Blank
import RowServe.CodePoint.Letter

/-!
# Variable files

A file of lines `NAME=value`, which sets variables that are not set yet. A value may be
quoted: in single quotes everything stands for itself, in double quotes and without
quotes a backslash escapes and `$NAME` stands for a variable. A comment begins with `#`
behind a blank. Reading stops at the first line that breaks these rules; the lines before
it count.

Results:

* `load_of_set`: a variable that is set keeps its value.
-/

namespace RowServe.Dotenv

/-! ## Lines -/

/-- Where a reader stands in a line: behind a blank, behind a backslash, in plain text, or
    in quotes, there also behind a backslash. -/
inductive Position where
  | blank
  | escape
  | plain
  | double
  | doubleEscape
  | single
  | singleEscape
  deriving DecidableEq

/-- The position behind a character of plain text. -/
def Position.afterPlain (c : Char) : Position :=
  if c = '\\' then .escape
  else if c = '"' then .double
  else if c = '\'' then .single
  else .plain

/-- The position behind a character. -/
def Position.next (c : Char) : Position → Position
  | blank => afterPlain c
  | escape => plain
  | plain =>
    if Text.isBlank c && c ≠ '\n' && c ≠ '\r' then blank else afterPlain c
  | double => if c = '\\' then doubleEscape else if c = '"' then plain else double
  | doubleEscape => double
  | single => if c = '\\' then singleEscape else if c = '\'' then plain else single
  | singleEscape => single

/-- Where a physical line leaves the reader, or the text of the line before a comment. -/
def scan (position : Position) (passed : List Char) : List Char → Position ⊕ List Char
  | [] => .inl position
  | c :: rest =>
    if position = .blank && c = '#' then .inr passed.reverse
    else scan (position.next c) (c :: passed) rest

/-- The physical lines of a text, each with its line feed. -/
def physicalLines (line : List Char) : List Char → List (List Char)
  | [] => if line.isEmpty then [] else [line.reverse]
  | '\n' :: rest => ('\n' :: line).reverse :: physicalLines [] rest
  | c :: rest => physicalLines (c :: line) rest

/-- A line without the line break at its end. -/
def withoutBreak (line : List Char) : List Char :=
  match line.reverse with
  | '\n' :: '\r' :: rest => rest.reverse
  | '\n' :: rest => rest.reverse
  | _ => line

/-- Is the text a comment as a whole? -/
def isComment (text : List Char) : Bool := (Text.trimFrontList text).head? = some '#'

/-- The lines of a file; open quotes go on in the next physical line. `none` stands for a
    line that does not end. -/
def logicalLines (position : Position) (begun : List Char) :
    List (List Char) → List (Option (List Char))
  | [] => if position = .plain then [] else [none]
  | line :: rest =>
    let text := begun ++ line
    if isComment text then some [] :: logicalLines .plain [] rest
    else
      match scan position [] line with
      | .inr before => some (begun ++ before) :: logicalLines .plain [] rest
      | .inl .plain => some (withoutBreak text) :: logicalLines .plain [] rest
      | .inl position => logicalLines position text rest

/-! ## Values -/

/-- What is being read of a reference to a variable: nothing, a bare name, or a name in
    braces. -/
inductive Reference where
  | no
  | bare (name : List Char)
  | braced (name : List Char)

/-- Where a reader stands in a value. -/
structure ValueState where
  single : Bool
  double : Bool
  escaped : Bool
  ended : Bool
  reference : Reference
  /-- The characters so far, the last one first. -/
  output : List Char

/-- The start of a value. -/
def ValueState.start : ValueState := ⟨false, false, false, false, .no, []⟩

/-- One more character. -/
def ValueState.push (s : ValueState) (c : Char) : ValueState := { s with output := c :: s.output }

/-- The value of a variable is put in. -/
def ValueState.putVariable (s : ValueState) (valueOf : String → String) (name : List Char) :
    ValueState :=
  { s with output := (valueOf (String.ofList name.reverse)).toList.reverse ++ s.output }

/-- May the character stand in a bare name? -/
def isNameChar (c : Char) : Bool := CodePoint.isAlphanumeric c

/-- A character behind a backslash. -/
def unescape? (c : Char) : Option Char :=
  if c = 'n' then some '\n'
  else if c = '\\' || c = '\'' || c = '"' || c = '$' || c = ' ' then some c
  else none

/-- A character of a bare reference. -/
def ValueState.bareStep (s : ValueState) (valueOf : String → String) (name : List Char)
    (c : Char) : ValueState :=
  if isNameChar c then { s with reference := .bare (c :: name) }
  else if c = '\x7b' && name.isEmpty then { s with reference := .braced [] }
  else
    let s := s.putVariable valueOf name
    if c = '$' then { s with reference := .bare [] }
    else { s with reference := .no }.push c

/-- A character of a reference in braces. -/
def ValueState.bracedStep (s : ValueState) (valueOf : String → String) (name : List Char)
    (c : Char) : ValueState :=
  if c = '\x7d' then { s.putVariable valueOf name with reference := .no }
  else { s with reference := .braced (c :: name) }

/-- A character outside of references. -/
def ValueState.plainStep (s : ValueState) (c : Char) : ValueState :=
  if c = '$' then { s with reference := .bare [] }
  else if c = '\\' then { s with escaped := true }
  else if s.double then (if c = '"' then { s with double := false } else s.push c)
  else if c = '\'' then { s with single := true }
  else if c = '"' then { s with double := true }
  else if c = ' ' || c = '\t' then { s with ended := true }
  else s.push c

/-- Reads the rest of a value. -/
def readValue (valueOf : String → String) (s : ValueState) : List Char → Option ValueState
  | [] => some s
  | c :: rest =>
    if s.ended then
      if c = ' ' || c = '\t' then readValue valueOf s rest
      else if c = '#' then some s
      else none
    else if s.escaped then
      (unescape? c).bind fun d => readValue valueOf ({ s with escaped := false }.push d) rest
    else if s.single then
      readValue valueOf (if c = '\'' then { s with single := false } else s.push c) rest
    else
      match s.reference with
      | .bare name => readValue valueOf (s.bareStep valueOf name c) rest
      | .braced name => readValue valueOf (s.bracedStep valueOf name c) rest
      | .no => readValue valueOf (s.plainStep c) rest

/-- The value of a text; quotes and braces have to be closed. -/
def value? (valueOf : String → String) (text : List Char) : Option String := do
  let s ← readValue valueOf .start text
  if s.single || s.double then none
  else
    match s.reference with
    | .braced _ => none
    | .bare name => some (String.ofList (s.putVariable valueOf name).output.reverse)
    | .no => some (String.ofList s.output.reverse)

/-! ## Entries -/

/-- May the character begin a name? -/
def isKeyStart (c : Char) : Bool := c.isAlpha || c = '_'

/-- May the character stand in a name? -/
def isKeyChar (c : Char) : Bool := c.isAlphanum || c = '_' || c = '.'

/-- A name and what follows it, without blanks. -/
def key? (cs : List Char) : Option (String × List Char) :=
  if cs.head?.any isKeyStart then
    some (String.ofList (cs.takeWhile isKeyChar), Text.trimFrontList (cs.dropWhile isKeyChar))
  else none

/-- What follows an equals sign. -/
def afterEquals? : List Char → Option (List Char)
  | '=' :: rest => some (Text.trimFrontList rest)
  | _ => none

/-- The name and the text of the value of a line; the word `export` may stand before. -/
def assignment? (cs : List Char) : Option (String × List Char) := do
  let (key, rest) ← key? cs
  match key, afterEquals? rest with
  | "export", none =>
    let (key, rest) ← key? rest
    return (key, ← afterEquals? rest)
  | _, value => return (key, ← value)

/-- Variables while a file is read: those that are set, and those of the file itself. -/
structure Variables where
  set : Keyed String
  file : Keyed String

/-- The value that a reference to a variable stands for. -/
def Variables.value (v : Variables) (name : String) : String :=
  (v.set.find? name).getD ((v.file.find? name).getD "")

/-- One more entry of the file. A variable that is set already keeps its value. -/
def Variables.add (v : Variables) (key value : String) : Variables where
  set := if v.set.has key then v.set else v.set.insert key value
  file := v.file.insert key value

/-- What a line does; `none` if the line breaks the rules. -/
def line (v : Variables) (cs : List Char) : Option Variables :=
  let cs := Text.trimList cs
  if cs.isEmpty || cs.head? = some '#' then some v
  else do
    let (key, text) ← assignment? cs
    if text.isEmpty || text.head? = some '#' then return v.add key ""
    else return v.add key (← value? v.value text)

/-- What the lines do, up to the first that breaks the rules. -/
def lines (v : Variables) : List (Option (List Char)) → Variables
  | [] => v
  | none :: _ => v
  | some cs :: rest =>
    match line v cs with
    | some v => lines v rest
    | none => v

/-- A text without a byte order mark at its start. -/
def withoutMark : List Char → List Char
  | '\uFEFF' :: rest => rest
  | cs => cs

/-- The variables after a file is read. -/
def load (env : Keyed String) (content : String) : Keyed String :=
  (lines ⟨env, []⟩
    (logicalLines .plain [] (physicalLines [] (withoutMark content.toList)))).set

/-! ## Set variables -/

theorem add_of_set {v : Variables} {k : String} {x : String} (h : v.set.find? k = some x)
    (key value : String) : (v.add key value).set.find? k = some x := by
  simp only [Variables.add]
  split
  · exact h
  · rename_i absent
    rw [Keyed.find?_insert, if_neg]
    · exact h
    · intro e
      subst e
      simp [Keyed.has, h] at absent

theorem line_of_set {v w : Variables} {k x : String} {cs : List Char}
    (h : v.set.find? k = some x) (step : line v cs = some w) : w.set.find? k = some x := by
  simp only [line] at step
  split at step
  · simp only [Option.some.injEq] at step
    exact step ▸ h
  · obtain ⟨⟨key, text⟩, _, step⟩ := Option.bind_eq_some_iff.mp step
    split at step
    · simp only [pure, Option.some.injEq] at step
      exact step ▸ add_of_set h _ _
    · obtain ⟨value, _, step⟩ := Option.bind_eq_some_iff.mp step
      simp only [pure, Option.some.injEq] at step
      exact step ▸ add_of_set h _ _

theorem lines_of_set {v : Variables} {k x : String} (h : v.set.find? k = some x)
    (ls : List (Option (List Char))) : (lines v ls).set.find? k = some x := by
  induction ls generalizing v with
  | nil => exact h
  | cons l ls ih =>
    cases l with
    | none => exact h
    | some cs =>
      simp only [lines]
      split
      · rename_i w step
        exact ih (line_of_set h step)
      · exact h

theorem load_of_set {env : Keyed String} {k x : String}
    (h : env.find? k = some x) (content : String) :
    (load env content).find? k = some x :=
  lines_of_set (v := ⟨env, []⟩) h _

end RowServe.Dotenv
