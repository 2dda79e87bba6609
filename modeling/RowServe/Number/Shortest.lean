import RowServe.Number.Binary64

/-!
# Shortest decimal digits

The decimal digits written for a binary64 number: the fewest digits that read back
as the number, and of those the nearest to it, a tie going to the even last digit.
-/

namespace RowServe

/-- A non-negative decimal number `digits · 10 ^ exponent`. -/
structure Decimal where
  digits : Nat
  exponent : Int
  deriving DecidableEq, Repr, Inhabited

/-- Moves trailing zeros of the digits into the exponent, at most `fuel` of them. -/
def Decimal.dropZeros : Nat → Nat → Int → Decimal
  | 0, d, k => ⟨d, k⟩
  | fuel + 1, d, k => if d % 10 = 0 then dropZeros fuel (d / 10) (k + 1) else ⟨d, k⟩

/-- The same number with no trailing zero among its digits; zero has exponent zero. -/
def Decimal.normalize (d : Decimal) : Decimal :=
  if d.digits = 0 then ⟨0, 0⟩ else dropZeros (Nat.toDigits 10 d.digits).length d.digits d.exponent

namespace Binary64

/-- The magnitude and the two halfway points around it, as numerators over one common
    denominator. Below a power of two the neighbour is half as far away. -/
structure Surroundings where
  low : Nat
  value : Nat
  high : Nat
  den : Nat
  /-- The halfway points themselves round to the number. -/
  closed : Bool

/-- The reals that round to the magnitude of a number. -/
def surroundings (x : Binary64) : Surroundings :=
  let narrow := x.mantissa = 0x10000000000000 ∧ -1074 < x.exponent
  let low := if narrow then 4 * x.mantissa - 1 else 4 * x.mantissa - 2
  let e := x.exponent - 2
  let up := Nat.pow 2 e.toNat
  { low := low * up
    value := 4 * x.mantissa * up
    high := (4 * x.mantissa + 2) * up
    den := Nat.pow 2 (-e).toNat
    closed := x.mantissa % 2 = 0 }

/-- Does `d · 10 ^ k` read back as the number? -/
def Surroundings.holds (s : Surroundings) (d : Nat) (k : Int) : Bool :=
  let num := d * Nat.pow 10 k.toNat * s.den
  let scale := Nat.pow 10 (-k).toNat
  if s.closed then s.low * scale ≤ num && num ≤ s.high * scale
  else s.low * scale < num && num < s.high * scale

/-- The multiple of `10 ^ k` chosen for the number, if one reads back: the nearer of
    its two neighbours on that grid. -/
def Surroundings.onGrid (s : Surroundings) (k : Int) : Option Nat :=
  let num := s.value * Nat.pow 10 (-k).toNat
  let den := s.den * Nat.pow 10 k.toNat
  let below := num / den
  let r := num % den
  let fromBelow := s.holds below k
  let fromAbove := s.holds (below + 1) k
  let preferBelow := 2 * r < den || (2 * r == den && below % 2 == 0)
  if fromBelow && (preferBelow || !fromAbove) then some below
  else if fromAbove then some (below + 1)
  else none

/-- The decimal exponent of the leading digit of `num / den`, for a quotient of at least
    `10 ^ -400`: the digits of the quotient scaled by `10 ^ 400` are counted. -/
def leadingExponent (num den : Nat) : Int :=
  ((Nat.toDigits 10 (num * Nat.pow 10 400 / den)).length : Int) - 401

/-- Tries the grids of `10 ^ k`, `10 ^ (k - 1)`, …, coarse ones first. -/
def Surroundings.firstGrid (s : Surroundings) : Nat → Int → Decimal
  | 0, k => ⟨s.value * Nat.pow 10 (-k).toNat / (s.den * Nat.pow 10 k.toNat), k⟩
  | n + 1, k =>
    match s.onGrid k with
    | some d => ⟨d, k⟩
    | none => s.firstGrid n (k - 1)

/-- The shortest digits of the magnitude of a number. Seventeen digits always suffice. -/
def shortest (x : Binary64) : Decimal :=
  if x.mantissa = 0 then ⟨0, 0⟩
  else
    let s := x.surroundings
    (s.firstGrid 17 (leadingExponent s.value s.den)).normalize

end Binary64

end RowServe
