import RowServe.Text.Split
import RowServe.Text.Utf8

/-!
# Escapes in addresses

A byte in an address may be written as a percent sign and two hexadecimal digits. In the
form encoding of queries a plus sign is a space, pairs stand between ampersands, and the
first equals sign of a pair ends its name.

Results:

* `unescape_plain`: without a percent sign nothing changes.
-/

namespace RowServe.Http

/-- The value of a hexadecimal digit. -/
def hexDigit? (b : Nat) : Option Nat :=
  if 0x30 ≤ b ∧ b ≤ 0x39 then some (b - 0x30)
  else if 0x41 ≤ b ∧ b ≤ 0x46 then some (b - 0x37)
  else if 0x61 ≤ b ∧ b ≤ 0x66 then some (b - 0x57)
  else none

/-- The byte that two hexadecimal digits write. -/
def hexByte? (high low : Nat) : Option Nat := do
  return 16 * (← hexDigit? high) + (← hexDigit? low)

/-- Bytes with their escapes read. A percent sign without two digits stays as it is. -/
def unescape : List Nat → List Nat
  | 0x25 :: high :: low :: rest =>
    match hexByte? high low with
    | some b => b :: unescape rest
    | none => 0x25 :: unescape (high :: low :: rest)
  | b :: rest => b :: unescape rest
  | [] => []
termination_by bytes => bytes.length

/-- The bytes of characters in UTF-8. -/
def bytesOf (cs : List Char) : List Nat :=
  (String.ofList cs).toUTF8.toList.map UInt8.toNat

/-- One segment of a path, if its bytes are text. -/
def segment? (cs : List Char) : Option String := Text.Utf8.text? (unescape (bytesOf cs))

/-- A name or a value of a query. -/
def formText (cs : List Char) : String :=
  Text.Utf8.textWithReplacements
    (unescape (bytesOf (cs.map fun c => if c = '+' then ' ' else c)))

/-- A name with its value; without an equals sign the value is empty. -/
def formPair (cs : List Char) : String × String :=
  match Text.splitOnce '=' cs with
  | some (name, value) => (formText name, formText value)
  | none => (formText cs, "")

/-- The pairs of a query in order; empty pieces do not count. -/
def formPairs (query : List Char) : List (String × String) :=
  ((Text.splitOn '&' query).filter fun piece => !piece.isEmpty).map formPair

theorem unescape_plain (bytes : List Nat) (h : 0x25 ∉ bytes) : unescape bytes = bytes := by
  induction bytes with
  | nil => simp [unescape]
  | cons b rest ih =>
    have hb : b ≠ 0x25 := fun e => h (e ▸ List.mem_cons_self)
    have ih := ih fun m => h (List.mem_cons_of_mem _ m)
    rw [unescape]
    · rw [ih]
    · intro high low rest' e
      exact absurd e (by simp [hb])

end RowServe.Http
