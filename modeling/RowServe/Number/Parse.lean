import RowServe.Number.Literal
import RowServe.Text.Blank

/-!
# Numbers in plain text

Numbers as they come in query strings: an optional sign and ASCII digits, for fractions
also a point and an exponent. White space around a number does not matter.

Results:

* `integer?_isSigned64`: an integer that is read fits 64 bits.
-/

namespace RowServe.Number

/-- Splits off an optional sign; true for a minus. -/
def splitSign : List Char → Bool × List Char
  | '-' :: rest => (true, rest)
  | '+' :: rest => (false, rest)
  | cs => (false, cs)

/-- The values of decimal digits; `none` unless all characters are ASCII digits. -/
def digits? (cs : List Char) : Option (List Nat) :=
  if cs.all Char.isDigit then some (cs.map fun c => c.toNat - 48) else none

/-- An integer, provided it fits 64 bits with a sign. -/
def signed64? (i : Int) : Option Int := if isSigned64 i then some i else none

/-- The signed 64-bit integer of a text. -/
def integer? (s : String) : Option Int :=
  let (negative, cs) := splitSign (Text.trimList s.toList)
  match digits? cs with
  | some (d :: ds) =>
    let n := Literal.ofDigits (d :: ds)
    signed64? (if negative then -(n : Int) else n)
  | _ => none

/-- An unsigned integer below a bound: ASCII digits, with a plus sign before them or not.
    Blanks are not allowed for. -/
def unsigned? (bound : Nat) (s : String) : Option Nat :=
  let cs := match s.toList with
    | '+' :: rest => rest
    | cs => cs
  match digits? cs with
  | some (d :: ds) =>
    let n := Literal.ofDigits (d :: ds)
    if n < bound then some n else none
  | _ => none

/-- The number nearest to `± digits · 10 ^ exponent`. Magnitudes far outside of the range
    of the format are settled by their size. -/
def ofDigitsExponent (negative : Bool) (digits : List Nat) (exponent : Int) : Option Binary64 :=
  let n := Literal.ofDigits digits
  let magnitude := exponent + digits.length
  if n = 0 then some (Binary64.zero negative)
  else if magnitude < -400 then some (Binary64.zero negative)
  else if 400 + (digits.length : Int) < magnitude then none
  else Binary64.ofDecimal negative n exponent

/-- The exponent behind a mantissa: none, or `e` with a signed integer. -/
def exponent? : List Char → Option Int
  | [] => some 0
  | c :: rest =>
    if c = 'e' ∨ c = 'E' then
      let (negative, cs) := splitSign rest
      match digits? cs with
      | some (d :: ds) =>
        let n := Literal.ofDigits (d :: ds)
        some (if negative then -(n : Int) else n)
      | _ => none
    else none

/-- The finite number of a text, correctly rounded. -/
def float? (s : String) : Option Binary64 := do
  let (negative, cs) := splitSign (Text.trimList s.toList)
  let whole := cs.takeWhile Char.isDigit
  let rest := cs.dropWhile Char.isDigit
  let (fraction, rest) : List Char × List Char :=
    match rest with
    | '.' :: rest => (rest.takeWhile Char.isDigit, rest.dropWhile Char.isDigit)
    | _ => ([], rest)
  let exponent ← exponent? rest
  let digits ← digits? (whole ++ fraction)
  if digits.isEmpty then none
  else ofDigitsExponent negative digits (exponent - fraction.length)

theorem signed64?_isSigned64 {i j : Int} (h : signed64? i = some j) : isSigned64 j = true := by
  simp only [signed64?, Option.ite_none_right_eq_some, Option.some.injEq] at h
  exact h.2 ▸ h.1

theorem integer?_isSigned64 {s : String} {i : Int} (h : integer? s = some i) :
    isSigned64 i = true := by
  simp only [integer?] at h
  split at h
  · exact signed64?_isSigned64 h
  · contradiction

end RowServe.Number
