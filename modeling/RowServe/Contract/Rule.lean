import RowServe.Contract.Basic
import RowServe.Json.Equal
import RowServe.Uuid

/-!
# Validation rules

Every part of a rule that a value breaks gives one message, in a fixed order.
-/

namespace RowServe.ValidationRule

/-- A user and a host with a dot in it, around the first at sign. -/
def isEmail (s : String) : Bool :=
  match Text.splitOnce '@' s.toList with
  | some (user, host) => !user.isEmpty && host.contains '.'
  | none => false

/-- The length of a text in characters, or of a list in items. -/
def lengthOf : Json → Option Nat
  | .str s => some s.toList.length
  | .arr items => some items.length
  | _ => none

/-- Is the value a blank text, or a list or dictionary without entries? -/
def isBlankValue : Json → Bool
  | .str s => (Text.trimList s.toList).isEmpty
  | .arr items => items.isEmpty
  | .obj entries => entries.isEmpty
  | _ => false

/-- The format of a rule, checked on texts only. -/
def formatViolation (format : String) : Json → Option String
  | .str s =>
    let format := Text.toLower format
    if format = "email" then if isEmail s then none else some "Not a valid email address."
    else if format = "uuid" then if (Uuid.parse? s).isSome then none else some "Not a valid UUID."
    else none
  | _ => none

/-- An upper bound on the length. -/
def maxLengthViolation (max : Nat) (v : Json) : Option String := do
  let n ← lengthOf v
  if max < n then some ("Longer than maximum length " ++ max.repr ++ ".") else none

/-- A lower bound on the length. -/
def minLengthViolation (min : Nat) (v : Json) : Option String := do
  let n ← lengthOf v
  if n < min then some ("Shorter than minimum length " ++ min.repr ++ ".") else none

/-- A pattern that has to match somewhere in a text. -/
def patternViolation (p : Pattern) : Json → Option String
  | .str s => if p.isMatch s then none else some "String does not match expected pattern."
  | _ => none

/-- A list of allowed values. -/
def allowedViolation (allowed : List Json) (v : Json) : Option String :=
  if allowed.any v.equals then none
  else some ("Must be one of: " ++
    ", ".intercalate (allowed.map fun a => a.asText?.getD a.compact) ++ ".")

/-- A bound as it is written in messages. -/
def boundText (x : Binary64) : String := Number.floatText Number.plainLayout x

/-- A lower bound on numbers. -/
def minimumViolation (min : Binary64) : Json → Option String
  | .num n =>
    if n.toBinary64.lessThan min then
      some ("Must be greater than or equal to " ++ boundText min ++ ".")
    else none
  | _ => none

/-- An upper bound on numbers. -/
def maximumViolation (max : Binary64) : Json → Option String
  | .num n =>
    if max.lessThan n.toBinary64 then
      some ("Must be less than or equal to " ++ boundText max ++ ".")
    else none
  | _ => none

/-- The message for an empty value. -/
def emptyMessage : String := "Field cannot be empty."

/-- What is wrong with a value. -/
def violations (r : ValidationRule) (pattern : Option Pattern) (v : Json) : List String :=
  [ r.format.bind (formatViolation · v),
    r.maxLength.bind (maxLengthViolation · v),
    r.minLength.bind (minLengthViolation · v),
    pattern.bind (patternViolation · v),
    r.allowed.bind (allowedViolation · v),
    r.minimum.bind (minimumViolation · v),
    r.maximum.bind (maximumViolation · v),
    if r.notEmpty = some true ∧ isBlankValue v then some emptyMessage else none ].filterMap id

end RowServe.ValidationRule
