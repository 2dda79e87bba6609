import RowServe.Number.Shortest

/-!
# Numbers

A number is an integer of 64 bits, signed or unsigned, or a binary64 number. The two
kinds stay apart: `1` and `1.0` are different numbers with different texts.

Results:

* `isSigned64_iff`: the integers of a sign and 64 bits.
-/

namespace RowServe

/-- The decimal text of an integer. -/
def integerText (i : Int) : String :=
  if i < 0 then "-" ++ i.natAbs.repr else i.natAbs.repr

/-- A number as it was written: an integer, or a binary64 number. -/
inductive Number where
  | int (i : Int)
  | float (x : Binary64)
  deriving DecidableEq

namespace Number

instance : Inhabited Number := ⟨.int 0⟩

/-- The signed 64-bit integers. -/
def isSigned64 (i : Int) : Bool := -0x8000000000000000 ≤ i && i < 0x8000000000000000

/-- The integers a number can hold: signed or unsigned, of 64 bits. -/
def isInteger (i : Int) : Bool := -0x8000000000000000 ≤ i && i < 0x10000000000000000

theorem isSigned64_iff (i : Int) :
    isSigned64 i = true ↔ -0x8000000000000000 ≤ i ∧ i < 0x8000000000000000 := by
  simp [isSigned64]

/-- The binary64 number nearest to a number. -/
def toBinary64 : Number → Binary64
  | .int i => Binary64.ofInt i
  | .float x => x

/-! ## Texts -/

/-- How the digits of a binary64 number are laid out. -/
structure Layout where
  /-- The least decimal exponent written positionally. -/
  positionalFrom : Int
  /-- The greatest decimal exponent written positionally. -/
  positionalTo : Int
  /-- Is a whole number followed by `.0`? -/
  keepPoint : Bool

/-- The layout of numbers in JSON: positional from `10 ^ -5` to `10 ^ 15`, always showing
    that the number is not an integer. -/
def jsonLayout : Layout := ⟨-5, 15, true⟩

/-- The layout of bounds in messages: always positional, whole numbers without a point. -/
def plainLayout : Layout := ⟨-400, 400, false⟩

/-- Zeros as text. -/
def zeros (n : Nat) : String := String.ofList (List.replicate n '0')

/-- Digits with the point placed for the decimal exponent of the last digit. -/
def positional (layout : Layout) (d : Decimal) : String :=
  let digits := Nat.toDigits 10 d.digits
  if 0 ≤ d.exponent then
    String.ofList digits ++ zeros d.exponent.toNat ++ (if layout.keepPoint then ".0" else "")
  else
    let places := (-d.exponent).toNat
    if places < digits.length then
      String.ofList (digits.take (digits.length - places)) ++ "." ++
        String.ofList (digits.drop (digits.length - places))
    else "0." ++ zeros (places - digits.length) ++ String.ofList digits

/-- One digit, the others behind a point, and the decimal exponent with its sign. -/
def scientific (d : Decimal) : String :=
  let digits := Nat.toDigits 10 d.digits
  let exponent := d.exponent + digits.length - 1
  let rest := digits.drop 1
  String.ofList (digits.take 1) ++
    (if rest.isEmpty then "" else "." ++ String.ofList rest) ++
    "e" ++ (if 0 ≤ exponent then "+" else "") ++ integerText exponent

/-- The text of a binary64 number: its shortest digits in the layout. -/
def floatText (layout : Layout) (x : Binary64) : String :=
  let d := x.shortest
  let leading := d.exponent + (Nat.toDigits 10 d.digits).length - 1
  (if x.negative then "-" else "") ++
    (if layout.positionalFrom ≤ leading ∧ leading ≤ layout.positionalTo then positional layout d
     else scientific d)

/-- The text of a number in JSON. -/
def text : Number → String
  | .int i => integerText i
  | .float x => floatText jsonLayout x

end Number

end RowServe
