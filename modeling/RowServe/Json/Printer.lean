import RowServe.Json.Basic

/-!
# Compact JSON text

A value written without spaces: objects in key order, characters of strings as they
are, except for quotes, backslashes and control characters.

Results:

* `escapeChar_of_plain`: a character that needs no escape is written as it is.
-/

namespace RowServe.Json

/-- A hexadecimal digit in lower case. -/
def hexDigit (n : Nat) : Char :=
  if n < 10 then Char.ofNat (48 + n) else Char.ofNat (87 + n)

/-- A character inside a JSON string. -/
def escapeChar (c : Char) : List Char :=
  if c = '"' then ['\\', '"']
  else if c = '\\' then ['\\', '\\']
  else if c = '\x08' then ['\\', 'b']
  else if c = '\x0c' then ['\\', 'f']
  else if c = '\n' then ['\\', 'n']
  else if c = '\r' then ['\\', 'r']
  else if c = '\t' then ['\\', 't']
  else if c.toNat < 32 then ['\\', 'u', '0', '0', hexDigit (c.toNat / 16), hexDigit (c.toNat % 16)]
  else [c]

/-- A text as a JSON string, quotes included. -/
def quoteText (s : String) : String :=
  "\"" ++ String.ofList (s.toList.flatMap escapeChar) ++ "\""

/-- The opening and closing brace of an object. -/
def openBrace : String := "\x7b"

@[inherit_doc openBrace]
def closeBrace : String := "\x7d"

mutual

/-- The compact text of a value. -/
def compact : Json → String
  | .null => "null"
  | .bool b => if b then "true" else "false"
  | .num n => n.text
  | .str s => quoteText s
  | .arr items => "[" ++ compactItems items ++ "]"
  | .obj entries => openBrace ++ compactEntries entries ++ closeBrace

/-- The texts of array items with commas between them. -/
def compactItems : List Json → String
  | [] => ""
  | [v] => compact v
  | v :: rest => compact v ++ "," ++ compactItems rest

/-- The texts of object entries with commas between them. -/
def compactEntries : List (String × Json) → String
  | [] => ""
  | [(k, v)] => quoteText k ++ ":" ++ compact v
  | (k, v) :: rest => quoteText k ++ ":" ++ compact v ++ "," ++ compactEntries rest

end

theorem escapeChar_of_plain {c : Char} (quote : c ≠ '"') (backslash : c ≠ '\\')
    (printable : 32 ≤ c.toNat) : escapeChar c = [c] := by
  have ne : ∀ d : Char, d.toNat < 32 → c ≠ d := by
    intro d hd e
    subst e
    omega
  simp [escapeChar, quote, backslash, ne '\x08' (by decide), ne '\x0c' (by decide),
    ne '\n' (by decide), ne '\r' (by decide), ne '\t' (by decide), printable]

end RowServe.Json
