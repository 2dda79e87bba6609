/-!
# Binary floating-point numbers

The finite numbers of the IEEE 754 binary64 format, kept exactly: a sign and a
magnitude `m · 2^e` in the one canonical form the format allows. Every operation
is exact integer arithmetic followed by one rounding to nearest, ties to the even
mantissa, so equal numbers of equal sign are equal values of the type.

Results:

* `scaled_eq_zero_iff`: the scaled view is zero exactly on the two zeros.
-/

namespace RowServe

/-- The mantissas and exponents of the format: at most 53 bits, exponents from
    `-1074` to `971`, and a full 53-bit mantissa unless the exponent is the least. -/
def Binary64.IsCanonical (mantissa : Nat) (exponent : Int) : Prop :=
  mantissa < 0x20000000000000 ∧ -1074 ≤ exponent ∧ exponent ≤ 971 ∧
    (0x10000000000000 ≤ mantissa ∨ exponent = -1074)

instance (mantissa : Nat) (exponent : Int) :
    Decidable (Binary64.IsCanonical mantissa exponent) := by
  unfold Binary64.IsCanonical; infer_instance

/-- A finite binary64 number: `± mantissa · 2 ^ exponent`. -/
structure Binary64 where
  negative : Bool
  mantissa : Nat
  exponent : Int
  canonical : Binary64.IsCanonical mantissa exponent
  deriving DecidableEq

namespace Binary64

/-- The zero of the given sign. -/
def zero (negative : Bool) : Binary64 :=
  ⟨negative, 0, -1074, by decide⟩

instance : Inhabited Binary64 := ⟨zero false⟩

/-- The same magnitude with the other sign. -/
def neg (x : Binary64) : Binary64 := { x with negative := !x.negative }

/-- The value in units of `2 ^ -1074`, the least positive number of the format: an
    integer for every number, so that comparing values is comparing integers. -/
def scaled (x : Binary64) : Int :=
  let magnitude : Nat := x.mantissa * Nat.pow 2 (x.exponent + 1074).toNat
  if x.negative then -(magnitude : Int) else magnitude

/-! ## Rounding -/

/-- The quotient `num / den` rounded to the nearest integer, a tie going to the even one. -/
def divHalfEven (num den : Nat) : Nat :=
  let q := num / den
  let r := num % den
  if 2 * r < den then q
  else if den < 2 * r then q + 1
  else if q % 2 = 0 then q else q + 1

/-- The quotient `num / (den · 2 ^ e)` rounded to the nearest integer. -/
def roundAt (num den : Nat) (e : Int) : Nat :=
  if 0 ≤ e then divHalfEven num (den * Nat.pow 2 e.toNat)
  else divHalfEven (num * Nat.pow 2 (-e).toNat) den

/-- The exponent at which `num / den` has a 53-bit integer part, but at least `-1074`. -/
def targetExponent (num den : Nat) : Int :=
  let e : Int := (num.log2 : Int) - (den.log2 : Int) - 52
  let short := if 0 ≤ e then num < den * Nat.pow 2 e.toNat * 0x10000000000000
    else num * Nat.pow 2 (-e).toNat < den * 0x10000000000000
  max (-1074) (if short then e - 1 else e)

/-- The number nearest to `± num / den`, a tie going to the even mantissa; `none` if
    it is beyond the largest finite number. The denominator is taken as positive. -/
def ofRatio (negative : Bool) (num den : Nat) : Option Binary64 :=
  if num = 0 then some (zero negative)
  else
    let e := targetExponent num den
    let m := roundAt num den e
    let (m, e) := if m = 0x20000000000000 then (0x10000000000000, e + 1) else (m, e)
    if h : IsCanonical m e then some ⟨negative, m, e, h⟩ else none

/-- The number nearest to an integer; the zero integer gives the positive zero. Only
    integers beyond the largest finite number have none, and give the zero. -/
def ofInt (i : Int) : Binary64 :=
  (ofRatio (i < 0) i.natAbs 1).getD (zero false)

/-- The product, rounded. -/
def mul (x y : Binary64) : Option Binary64 :=
  let e := x.exponent + y.exponent
  let m := x.mantissa * y.mantissa
  let negative := x.negative != y.negative
  if 0 ≤ e then ofRatio negative (m * Nat.pow 2 e.toNat) 1
  else ofRatio negative m (Nat.pow 2 (-e).toNat)

/-- The quotient by a non-zero divisor, rounded. -/
def div (x y : Binary64) : Option Binary64 :=
  let e := x.exponent - y.exponent
  let negative := x.negative != y.negative
  if 0 ≤ e then ofRatio negative (x.mantissa * Nat.pow 2 e.toNat) y.mantissa
  else ofRatio negative x.mantissa (y.mantissa * Nat.pow 2 (-e).toNat)

/-- The number nearest to `± digits · 10 ^ exponent`. -/
def ofDecimal (negative : Bool) (digits : Nat) (exponent : Int) : Option Binary64 :=
  if 0 ≤ exponent then ofRatio negative (digits * Nat.pow 10 exponent.toNat) 1
  else ofRatio negative digits (Nat.pow 10 (-exponent).toNat)

/-! ## Comparison by value -/

/-- Equal values; the two zeros are equal. -/
def sameValue (x y : Binary64) : Bool := x.scaled == y.scaled

/-- The order of the values. -/
def lessThan (x y : Binary64) : Bool := x.scaled < y.scaled

theorem scaled_eq_zero_iff (x : Binary64) : x.scaled = 0 ↔ x.mantissa = 0 := by
  have h : 0 < Nat.pow 2 (x.exponent + 1074).toNat := Nat.pow_pos (by decide)
  have key : x.mantissa * Nat.pow 2 (x.exponent + 1074).toNat = 0 ↔ x.mantissa = 0 := by
    constructor
    · intro hm
      rcases Nat.mul_eq_zero.mp hm with h0 | h0
      · exact h0
      · omega
    · intro hm; simp [hm]
  simp only [scaled]
  split <;> omega

end Binary64

end RowServe
