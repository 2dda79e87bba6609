import RowServe.Json.Basic
import RowServe.Number.Literal

/-!
# Reading JSON text

A strict reader: one value, white space around it and nothing else, no raw control
characters in strings, no surrogate outside of a pair, and a limit on how deep arrays
and objects may nest. Of entries of an object with one key the last one counts.
-/

namespace RowServe.Json

/-- White space between the tokens of JSON text. -/
def isJsonBlank (c : Char) : Bool := c == ' ' || c == '\t' || c == '\n' || c == '\r'

/-- The characters without the blanks in front. -/
def skipBlank (cs : List Char) : List Char := cs.dropWhile isJsonBlank

/-! ## Strings -/

/-- The value of a hexadecimal digit. -/
def hexValue? (c : Char) : Option Nat :=
  if '0' ≤ c ∧ c ≤ '9' then some (c.toNat - 48)
  else if 'a' ≤ c ∧ c ≤ 'f' then some (c.toNat - 87)
  else if 'A' ≤ c ∧ c ≤ 'F' then some (c.toNat - 55)
  else none

/-- Where a reader stands inside a string. A high surrogate waits for its low half. -/
inductive StringState where
  | plain
  | escape (high : Option Nat)
  | hex (left : Nat) (value : Nat) (high : Option Nat)
  | afterHigh (high : Nat)

/-- The character of a one-letter escape. -/
def escapedChar? (c : Char) : Option Char :=
  match c with
  | '"' => some '"'
  | '\\' => some '\\'
  | '/' => some '/'
  | 'b' => some '\x08'
  | 'f' => some '\x0c'
  | 'n' => some '\n'
  | 'r' => some '\r'
  | 't' => some '\t'
  | _ => none

/-- What four hexadecimal digits stand for: a character, or a high surrogate that waits.
    `none` for half a surrogate pair in the wrong place. -/
def closeHex (value : Nat) (high : Option Nat) : Option (StringState × List Char) :=
  let isHigh := 0xD800 ≤ value && value < 0xDC00
  let isLow := 0xDC00 ≤ value && value < 0xE000
  match high with
  | none =>
    if isHigh then some (.afterHigh value, [])
    else if isLow then none
    else some (.plain, [Char.ofNat value])
  | some h =>
    if isLow then
      some (.plain, [Char.ofNat (0x10000 + (h - 0xD800) * 0x400 + (value - 0xDC00))])
    else none

/-- Reads up to the closing quote; `acc` holds the characters so far, the last one first. -/
def readChars (state : StringState) (acc : List Char) : List Char → Option (String × List Char)
  | [] => none
  | c :: rest =>
    match state with
    | .plain =>
      if c = '"' then some (String.ofList acc.reverse, rest)
      else if c = '\\' then readChars (.escape none) acc rest
      else if c.toNat < 32 then none
      else readChars .plain (c :: acc) rest
    | .afterHigh h => if c = '\\' then readChars (.escape (some h)) acc rest else none
    | .escape high =>
      if c = 'u' then readChars (.hex 3 0 high) acc rest
      else if high.isSome then none
      else
        match escapedChar? c with
        | some e => readChars .plain (e :: acc) rest
        | none => none
    | .hex left value high =>
      match hexValue? c with
      | none => none
      | some d =>
        let value := value * 16 + d
        match left with
        | left + 1 => readChars (.hex left value high) acc rest
        | 0 =>
          match closeHex value high with
          | none => none
          | some (next, chars) => readChars next (chars ++ acc) rest

/-! ## Numbers -/

/-- The leading decimal digits as values, and what follows them. -/
def takeDigits (cs : List Char) : List Nat × List Char :=
  ((cs.takeWhile Char.isDigit).map fun c => c.toNat - 48, cs.dropWhile Char.isDigit)

/-- The digits behind a point. -/
def readFraction (cs : List Char) : Option (Option (List Nat) × List Char) :=
  match cs with
  | '.' :: rest =>
    match takeDigits rest with
    | ([], _) => none
    | (digits, rest) => some (some digits, rest)
  | _ => some (none, cs)

/-- The sign and digits of an exponent. -/
def readExponent (cs : List Char) : Option (Option (Bool × List Nat) × List Char) :=
  let signed (cs : List Char) : Option (Option (Bool × List Nat) × List Char) :=
    let (negative, digits) : Bool × List Char :=
      match cs with
      | '+' :: rest => (false, rest)
      | '-' :: rest => (true, rest)
      | _ => (false, cs)
    match takeDigits digits with
    | ([], _) => none
    | (digits, rest) => some (some (negative, digits), rest)
  match cs with
  | 'e' :: rest => signed rest
  | 'E' :: rest => signed rest
  | _ => some (none, cs)

/-- The digits before the point: a single zero, or digits that do not start with one. -/
def readWhole (cs : List Char) : Option (List Nat × List Char) :=
  match takeDigits cs with
  | ([], _) => none
  | (0 :: _ :: _, _) => none
  | digits => some digits

/-- A number literal. -/
def readNumber (cs : List Char) : Option (Json × List Char) := do
  let (negative, cs) : Bool × List Char :=
    match cs with
    | '-' :: rest => (true, rest)
    | _ => (false, cs)
  let (whole, cs) ← readWhole cs
  let (fraction, cs) ← readFraction cs
  let (exponent, cs) ← readExponent cs
  let n ← Literal.toNumber? ⟨negative, whole, fraction, exponent⟩
  return (.num n, cs)

/-! ## Values -/

mutual

/-- Reads one value. `depth` more arrays and objects may be opened; every call uses up
    one unit of fuel and at least one character. -/
def readValue (fuel depth : Nat) (cs : List Char) : Option (Json × List Char) :=
  match fuel with
  | 0 => none
  | fuel + 1 =>
    match skipBlank cs with
    | 'n' :: 'u' :: 'l' :: 'l' :: rest => some (.null, rest)
    | 't' :: 'r' :: 'u' :: 'e' :: rest => some (.bool true, rest)
    | 'f' :: 'a' :: 'l' :: 's' :: 'e' :: rest => some (.bool false, rest)
    | '"' :: rest => (readChars .plain [] rest).map fun (s, rest) => (.str s, rest)
    | '[' :: rest =>
      match depth, skipBlank rest with
      | 0, _ => none
      | _, ']' :: rest => some (.arr [], rest)
      | depth + 1, rest => readItems fuel depth [] rest
    | '\x7b' :: rest =>
      match depth, skipBlank rest with
      | 0, _ => none
      | _, '\x7d' :: rest => some (.obj [], rest)
      | depth + 1, rest => readEntries fuel depth [] rest
    | cs => readNumber cs

/-- Reads the items of an array up to its closing bracket; `acc` holds those before. -/
def readItems (fuel depth : Nat) (acc : List Json) (cs : List Char) :
    Option (Json × List Char) :=
  match fuel with
  | 0 => none
  | fuel + 1 =>
    match readValue fuel depth cs with
    | none => none
    | some (v, rest) =>
      match skipBlank rest with
      | ',' :: rest => readItems fuel depth (v :: acc) rest
      | ']' :: rest => some (.arr (v :: acc).reverse, rest)
      | _ => none

/-- Reads the entries of an object up to its closing brace into those of `acc`. -/
def readEntries (fuel depth : Nat) (acc : Object) (cs : List Char) :
    Option (Json × List Char) :=
  match fuel with
  | 0 => none
  | fuel + 1 =>
    match skipBlank cs with
    | '"' :: rest =>
      match readChars .plain [] rest with
      | none => none
      | some (k, rest) =>
        match skipBlank rest with
        | ':' :: rest =>
          match readValue fuel depth rest with
          | none => none
          | some (v, rest) =>
            match skipBlank rest with
            | ',' :: rest => readEntries fuel depth (acc.insert k v) rest
            | '\x7d' :: rest => some (.obj (acc.insert k v), rest)
            | _ => none
        | _ => none
    | _ => none

end

/-- The value of a JSON text whose arrays and objects nest no deeper than `depth`, `none` if
    the text is not strict JSON. -/
def parseWithin? (depth : Nat) (text : String) : Option Json :=
  let cs := text.toList
  match readValue (cs.length + 1) depth cs with
  | some (v, rest) => if (skipBlank rest).isEmpty then some v else none
  | none => none

/-- How deep arrays and objects may nest in a text. -/
def maxDepth : Nat := 127

/-- The value of a JSON text. -/
def parse? (text : String) : Option Json := parseWithin? maxDepth text

end RowServe.Json
