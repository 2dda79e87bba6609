/-!
# Reading UTF-8

Bytes as characters. Bytes that begin no character, or a character that breaks off, are
marked as one fault, and reading goes on behind them.

Results:

* `decode_ascii`: bytes below 128 are the characters of their values.
-/

namespace RowServe.Text.Utf8

/-- The bytes that may follow a first byte: how many, and the least and the greatest value
    of the first of them. Shortest forms only, no surrogates, nothing beyond the last
    code point. -/
def follow? (b : Nat) : Option (Nat × Nat × Nat) :=
  if 0xC2 ≤ b ∧ b ≤ 0xDF then some (1, 0x80, 0xBF)
  else if b = 0xE0 then some (2, 0xA0, 0xBF)
  else if b = 0xED then some (2, 0x80, 0x9F)
  else if 0xE1 ≤ b ∧ b ≤ 0xEF then some (2, 0x80, 0xBF)
  else if b = 0xF0 then some (3, 0x90, 0xBF)
  else if 0xF1 ≤ b ∧ b ≤ 0xF3 then some (3, 0x80, 0xBF)
  else if b = 0xF4 then some (3, 0x80, 0x8F)
  else none

/-- The bits that a first byte gives to its character. -/
def leadBits (b more : Nat) : Nat := b % Nat.pow 2 (6 - more)

/-- Where a reader stands: between characters, or inside one with some bytes to come, the
    next of them in a range, and a value so far. -/
inductive Position where
  | between
  | inside (more low high value : Nat)

/-- What follows when a byte stands between characters. -/
def atStart (b : Nat) : List (Option Char) × Position :=
  if b < 0x80 then ([some (Char.ofNat b)], .between)
  else
    match follow? b with
    | some (more, low, high) => ([], .inside more low high (leadBits b more))
    | none => ([none], .between)

/-- One byte: the characters and faults that are complete with it, and the new position. -/
def step (b : Nat) : Position → List (Option Char) × Position
  | .between => atStart b
  | .inside more low high value =>
    if low ≤ b ∧ b ≤ high then
      let value := value * 64 + b % 64
      if more = 1 then ([some (Char.ofNat value)], .between)
      else ([], .inside (more - 1) 0x80 0xBF value)
    else
      let (out, position) := atStart b
      (none :: out, position)

/-- The characters of bytes; `none` stands for a fault. -/
def decodeFrom (position : Position) : List Nat → List (Option Char)
  | [] =>
    match position with
    | .between => []
    | .inside _ _ _ _ => [none]
  | b :: rest =>
    let (out, position) := step b position
    out ++ decodeFrom position rest

/-- The characters of bytes; `none` stands for a fault. -/
def decode (bytes : List Nat) : List (Option Char) := decodeFrom .between bytes

/-- The text of bytes without a fault. -/
def text? (bytes : List Nat) : Option String := ((decode bytes).mapM id).map String.ofList

/-- The text of bytes, with a replacement character for every fault. -/
def textWithReplacements (bytes : List Nat) : String :=
  String.ofList ((decode bytes).map fun c => c.getD '\uFFFD')

theorem decode_cons {b : Nat} (h : b < 0x80) (rest : List Nat) :
    decode (b :: rest) = some (Char.ofNat b) :: decode rest := by
  simp [decode, decodeFrom, step, atStart, h]

theorem decode_ascii {bytes : List Nat} (h : ∀ b ∈ bytes, b < 0x80) :
    decode bytes = bytes.map fun b => some (Char.ofNat b) := by
  induction bytes with
  | nil => rfl
  | cons b bytes ih =>
    obtain ⟨hb, hbytes⟩ := List.forall_mem_cons.mp h
    rw [decode_cons hb, ih hbytes, List.map_cons]

end RowServe.Text.Utf8
