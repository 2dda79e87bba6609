import RowServe.Calendar.Date

/-!
# Points in time

Dates with a time of day, with or without the offset of a time zone. A text with an
offset is read strictly, one without it leniently.

Results:

* `nanoseconds_take`: digits of a fraction beyond the ninth do not count.
-/

namespace RowServe

/-- A time of day; the sixtieth second is a leap second. -/
structure TimeOfDay where
  hour : Nat
  minute : Nat
  second : Nat
  nano : Nat
  deriving DecidableEq, Repr

namespace TimeOfDay

/-- The time of these parts if there is one. -/
def ofParts? (hour minute second nano : Nat) : Option TimeOfDay :=
  if hour < 24 ∧ minute < 60 ∧ second ≤ 60 then some ⟨hour, minute, second, nano⟩ else none

/-- A fraction of a second: nothing, or a point with 3, 6 or 9 digits. -/
def fractionText (nano : Nat) : String :=
  if nano = 0 then ""
  else if nano % 1000000 = 0 then "." ++ Calendar.pad 3 (nano / 1000000)
  else if nano % 1000 = 0 then "." ++ Calendar.pad 6 (nano / 1000)
  else "." ++ Calendar.pad 9 nano

/-- The written form. -/
def text (t : TimeOfDay) : String :=
  Calendar.pad 2 t.hour ++ ":" ++ Calendar.pad 2 t.minute ++ ":" ++ Calendar.pad 2 t.second ++
    fractionText t.nano

end TimeOfDay

namespace Calendar

/-- The nanoseconds of the digits behind a point; nine digits count. -/
def nanoseconds (digits : List Nat) : Nat :=
  Literal.ofDigits (digits.take 9) * Nat.pow 10 (9 - digits.length)

theorem nanoseconds_take (digits : List Nat) (h : 9 ≤ digits.length) :
    nanoseconds digits = nanoseconds (digits.take 9) := by
  simp [nanoseconds, Nat.sub_eq_zero_of_le h, Nat.min_eq_left h, List.take_take]

/-- A fraction of a second, if there is a point. -/
def readFraction (cs : List Char) : Option (Nat × List Char) :=
  match cs with
  | '.' :: rest =>
    let digits := rest.takeWhile Char.isDigit
    if digits.isEmpty then none
    else some (nanoseconds (digits.map fun c => c.toNat - 48), rest.drop digits.length)
  | _ => some (0, cs)

/-- A time of day, its numbers read by `number`. -/
def readTime (number : List Char → Option (Nat × List Char)) (cs : List Char) :
    Option (TimeOfDay × List Char) := do
  let (hour, cs) ← number cs
  let cs ← readChar ':' cs
  let (minute, cs) ← number cs
  let cs ← readChar ':' cs
  let (second, cs) ← number cs
  let (nano, cs) ← readFraction cs
  let time ← TimeOfDay.ofParts? hour minute second nano
  return (time, cs)

/-- The offset of a time zone in minutes: `Z`, or a sign with hours and minutes, less
    than a day. -/
def readOffset (cs : List Char) : Option (Int × List Char) :=
  let signed (sign : Int) (cs : List Char) : Option (Int × List Char) := do
    let (hours, cs) ← readNumber 2 2 cs
    let cs ← readChar ':' cs
    let (minutes, cs) ← readNumber 2 2 cs
    if minutes < 60 ∧ hours < 24 then return (sign * (hours * 60 + minutes), cs) else none
  match cs with
  | 'Z' :: rest | 'z' :: rest => some (0, rest)
  | '+' :: rest => signed 1 rest
  | '-' :: rest | '−' :: rest => signed (-1) rest
  | _ => none

/-- The written form of an offset. -/
def offsetText (minutes : Int) : String :=
  (if minutes < 0 then "-" else "+") ++ pad 2 (minutes.natAbs / 60) ++ ":" ++
    pad 2 (minutes.natAbs % 60)

end Calendar

/-- A point in time: the local date and time, and the offset in minutes if it is known. -/
structure DateTime where
  date : Date
  time : TimeOfDay
  offset : Option Int

namespace DateTime

open Calendar

/-- The written form. -/
def text (t : DateTime) : String :=
  t.date.text ++ "T" ++ t.time.text ++
    (match t.offset with | some minutes => offsetText minutes | none => "")

/-- The mark between a date and a time in a text with an offset. -/
def readMark : List Char → Option (List Char)
  | 'T' :: rest | 't' :: rest | ' ' :: rest => some rest
  | _ => none

/-- Reads a point in time with an offset. All numbers have their full width. -/
def readWithOffset (cs : List Char) : Option DateTime := do
  let (year, cs) ← readNumber 4 4 cs
  let cs ← readChar '-' cs
  let (month, cs) ← readNumber 2 2 cs
  let cs ← readChar '-' cs
  let (day, cs) ← readNumber 2 2 cs
  let date ← Date.ofParts? year month day
  let cs ← readMark cs
  let (time, cs) ← readTime (readNumber 2 2) cs
  let (offset, cs) ← readOffset cs
  if cs.isEmpty then return ⟨date, time, some offset⟩ else none

/-- Reads a point in time without an offset; `mark` reads what stands between the date
    and the time. -/
def readLocal (mark : List Char → Option (List Char)) (cs : List Char) : Option DateTime := do
  let (date, cs) ← Date.read cs
  let cs ← mark cs
  let (time, cs) ← readTime (readPadded 1 2) cs
  if cs.isEmpty then return ⟨date, time, none⟩ else none

/-- The point in time that a text is. -/
def parse? (s : String) : Option DateTime :=
  let cs := s.toList
  (readWithOffset cs).orElse fun _ =>
    (readLocal (readChar 'T') cs).orElse fun _ =>
      readLocal (fun cs => some (Text.trimFrontList cs)) cs

end DateTime

end RowServe
