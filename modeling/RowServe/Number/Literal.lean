import RowServe.Number.Basic

/-!
# Number literals

The value of a decimal literal. An integer literal of 64 bits is that integer. Every
other literal is a binary64 number, found in steps that each round to nearest: the
leading digits that fit 64 bits are converted, and the result is scaled by powers of
ten. The steps keep a literal of few digits exact and may be off in the last bit for
a long one.

Results:

* `toNumber?_eq_int_iff`: an integer is read exactly from an integer literal of 64 bits that is not
  minus zero.
-/

namespace RowServe

/-- The parts of a literal of the JSON grammar: the digits before the point, those
    behind it, and the exponent with its sign. -/
structure Literal where
  negative : Bool
  whole : List Nat
  fraction : Option (List Nat)
  exponent : Option (Bool × List Nat)

namespace Literal

/-- A significand of 64 bits with the digits that were left out of it. -/
structure Significand where
  value : Nat
  /-- Whole digits that did not fit: each counts one power of ten. -/
  dropped : Nat
  /-- Digits behind the point that fit. -/
  places : Nat
  /-- Once a digit does not fit, no later one is taken. -/
  full : Bool

/-- The significand takes one more digit if it then fits 64 bits. -/
def Significand.push (s : Significand) (digit : Nat) : Option Nat :=
  let v := s.value * 10 + digit
  if s.full || Nat.pow 2 64 ≤ v then none else some v

/-- The next whole digit. -/
def Significand.pushWhole (s : Significand) (digit : Nat) : Significand :=
  match s.push digit with
  | some v => { s with value := v }
  | none => { s with dropped := s.dropped + 1, full := true }

/-- The next digit behind the point; one that does not fit is ignored with all after it. -/
def Significand.pushFraction (s : Significand) (digit : Nat) : Significand :=
  match s.push digit with
  | some v => { s with value := v, places := s.places + 1 }
  | none => { s with full := true }

/-- The significand of a literal. Digits behind the point are tried anew after whole
    digits were left out. -/
def significand (l : Literal) : Significand :=
  let whole := l.whole.foldl Significand.pushWhole ⟨0, 0, 0, false⟩
  (l.fraction.getD []).foldl Significand.pushFraction { whole with full := false }

/-- Multiplies or divides by powers of ten, none above `10 ^ 308`, rounding each time;
    `none` if the result is beyond the largest number. -/
def scale : Nat → Binary64 → Int → Option Binary64
  | fuel, x, k =>
    if k.natAbs ≤ 308 then
      (Binary64.ofInt (Nat.pow 10 k.natAbs)) |> fun p => if 0 ≤ k then x.mul p else x.div p
    else if x.mantissa = 0 then some x
    else if 0 ≤ k then none
    else
      match fuel with
      | 0 => some (Binary64.zero x.negative)
      | fuel + 1 => (x.div (Binary64.ofInt (Nat.pow 10 308))).bind fun y => scale fuel y (k + 308)

/-- The number written by digits: the value of a list of decimal digits. -/
def ofDigits (digits : List Nat) : Nat := digits.foldl (fun n d => n * 10 + d) 0

/-- The binary64 value of a literal, `none` beyond the largest number. An exponent of
    more than 31 bits gives zero if it is negative or the significand is zero. -/
def toBinary64? (l : Literal) : Option Binary64 :=
  let s := l.significand
  let signed (x : Binary64) : Binary64 := if l.negative then x.neg else x
  let start : Int := (s.dropped : Int) - s.places
  let (negativeExponent, size) : Bool × Nat :=
    match l.exponent with
    | none => (false, 0)
    | some (negative, digits) => (negative, ofDigits digits)
  if Nat.pow 2 31 ≤ size then
    if s.value ≠ 0 && !negativeExponent then none else some (signed (Binary64.zero false))
  else
    let k := if negativeExponent then start - size else start + size
    (scale 3 (Binary64.ofInt s.value) k).map signed

/-- The value of an integer literal: the integer if it has 64 bits. Minus zero and
    anything larger are binary64 numbers. -/
def toNumber? (l : Literal) : Option Number :=
  if l.fraction.isNone && l.exponent.isNone then
    let n := ofDigits l.whole
    let i : Int := if l.negative then -(n : Int) else n
    if Number.isInteger i && !(l.negative && n == 0) then some (.int i)
    else l.toBinary64?.map .float
  else l.toBinary64?.map .float

theorem toNumber?_eq_int_iff {l : Literal} {i : Int} :
    l.toNumber? = some (.int i) ↔
      l.fraction = none ∧ l.exponent = none ∧
        i = (if l.negative then -(ofDigits l.whole : Int) else ofDigits l.whole) ∧
        Number.isInteger i = true ∧ (l.negative = false ∨ ofDigits l.whole ≠ 0) := by
  have hfloat (x : Option Binary64) : x.map Number.float ≠ some (.int i) := by
    intro h
    obtain ⟨_, _, hx⟩ := Option.map_eq_some_iff.mp h
    cases hx
  unfold toNumber?
  dsimp only
  generalize (if l.negative then -(ofDigits l.whole : Int) else ofDigits l.whole) = n
  by_cases hwhole : l.fraction = none ∧ l.exponent = none
  · obtain ⟨hfraction, hexponent⟩ := hwhole
    rw [hfraction, hexponent, if_pos (by rfl)]
    by_cases hrange : Number.isInteger n = true ∧ (l.negative = false ∨ ofDigits l.whole ≠ 0)
    · rw [if_pos (by simpa using hrange)]
      constructor
      · intro h
        obtain rfl := Number.int.inj (Option.some.inj h)
        exact ⟨rfl, rfl, rfl, hrange⟩
      · rintro ⟨_, _, rfl, _⟩
        rfl
    · rw [if_neg (by simpa using hrange)]
      refine iff_of_false (hfloat _) ?_
      rintro ⟨_, _, rfl, hinteger⟩
      exact hrange hinteger
  · rw [if_neg (by simpa using hwhole)]
    exact iff_of_false (hfloat _) fun h => hwhole ⟨h.1, h.2.1⟩

end Literal

end RowServe
