import RowServe.Number.Parse

/-!
# Dates

Dates of the proleptic Gregorian calendar, read leniently and written as
`year-month-day`.

Results:

* `le_daysIn`, `daysIn_le`: a month has between 28 and 31 days.
-/

namespace RowServe

/-- Is it a leap year? -/
def isLeapYear (year : Int) : Bool := (year % 4 = 0 && year % 100 ≠ 0) || year % 400 = 0

/-- The number of days in a month. -/
def daysIn (year : Int) (month : Nat) : Nat :=
  if month = 2 then (if isLeapYear year then 29 else 28)
  else if month = 4 ∨ month = 6 ∨ month = 9 ∨ month = 11 then 30
  else 31

/-- The dates there are: years within `-262143` and `262142`. -/
def Date.IsValid (year : Int) (month day : Nat) : Prop :=
  -262143 ≤ year ∧ year ≤ 262142 ∧ 1 ≤ month ∧ month ≤ 12 ∧ 1 ≤ day ∧ day ≤ daysIn year month

instance (year : Int) (month day : Nat) : Decidable (Date.IsValid year month day) := by
  unfold Date.IsValid; infer_instance

/-- A date. -/
structure Date where
  year : Int
  month : Nat
  day : Nat
  valid : Date.IsValid year month day

namespace Calendar

/-- A number of at least `low` and at most `high` ASCII digits, and what follows it. -/
def readNumber (low high : Nat) (cs : List Char) : Option (Nat × List Char) :=
  let digits := (cs.take high).takeWhile Char.isDigit
  if digits.length < low then none
  else some (Literal.ofDigits (digits.map fun c => c.toNat - 48), cs.drop digits.length)

/-- A number that blanks may precede. -/
def readPadded (low high : Nat) (cs : List Char) : Option (Nat × List Char) :=
  readNumber low high (Text.trimFrontList cs)

/-- One given character. -/
def readChar (c : Char) : List Char → Option (List Char)
  | [] => none
  | d :: rest => if c = d then some rest else none

/-- A year: up to four digits, or any number of digits behind a sign. -/
def readYear (cs : List Char) : Option (Int × List Char) :=
  match Text.trimFrontList cs with
  | '-' :: rest => (readNumber 1 rest.length rest).map fun (n, r) => (-(n : Int), r)
  | '+' :: rest => (readNumber 1 rest.length rest).map fun (n, r) => ((n : Int), r)
  | cs => (readNumber 1 4 cs).map fun (n, r) => ((n : Int), r)

/-- A number with leading zeros up to a width. -/
def pad (width n : Nat) : String :=
  let digits := Nat.toDigits 10 n
  String.ofList (List.replicate (width - digits.length) '0' ++ digits)

/-- A year in four digits, beyond them with a sign. -/
def yearText (year : Int) : String :=
  if year < 0 then "-" ++ pad 4 year.natAbs
  else if 9999 < year then "+" ++ pad 4 year.natAbs
  else pad 4 year.natAbs

end Calendar

namespace Date

/-- The date of these parts if there is one. -/
def ofParts? (year : Int) (month day : Nat) : Option Date :=
  if h : IsValid year month day then some ⟨year, month, day, h⟩ else none

/-- The written form. -/
def text (d : Date) : String :=
  Calendar.yearText d.year ++ "-" ++ Calendar.pad 2 d.month ++ "-" ++ Calendar.pad 2 d.day

/-- Reads a date at the front of a text. -/
def read (cs : List Char) : Option (Date × List Char) := do
  let (year, cs) ← Calendar.readYear cs
  let cs ← Calendar.readChar '-' cs
  let (month, cs) ← Calendar.readPadded 1 2 cs
  let cs ← Calendar.readChar '-' cs
  let (day, cs) ← Calendar.readPadded 1 2 cs
  let date ← ofParts? year month day
  return (date, cs)

/-- The date that a text is. -/
def parse? (s : String) : Option Date :=
  match read s.toList with
  | some (d, []) => some d
  | _ => none

end Date

theorem le_daysIn (year : Int) (month : Nat) : 28 ≤ daysIn year month := by
  simp only [daysIn]
  split
  · split <;> decide
  · split <;> decide

theorem daysIn_le (year : Int) (month : Nat) : daysIn year month ≤ 31 := by
  simp only [daysIn]
  split
  · split <;> decide
  · split <;> decide

end RowServe
