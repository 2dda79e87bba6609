import RowServe.Calendar.DateTime
import RowServe.Declaration.Basic
import RowServe.FieldErrors
import RowServe.Json.Reader
import RowServe.Uuid

/-!
# Values of a type

Values come as JSON or, from query strings, as text. Each type says which values it
takes and in which form it keeps them.

Results:

* `toInteger_isSigned64`: what counts as an integer fits 64 bits with a sign.
-/

namespace RowServe

/-- How many units of the scaled view make one. -/
def Binary64.unitsPerOne : Nat := Nat.pow 2 1074

/-- The integer a binary64 number is equal to. -/
def Binary64.toInt? (x : Binary64) : Option Int :=
  if x.scaled % unitsPerOne = 0 then some (x.scaled / unitsPerOne) else none

namespace Convert

/-- The nearest signed 64-bit integer. -/
def clampSigned64 (i : Int) : Int := max (-0x8000000000000000) (min i 0x7fffffffffffffff)

/-- The integer a value stands for: a whole number, beyond 64 bits the last one there is,
    or the text of an integer. -/
def toInteger : Json → Option Int
  | .num (.int i) => some (clampSigned64 i)
  | .num (.float x) => x.toInt?.map clampSigned64
  | .str s => Number.integer? s
  | _ => none

/-- The number a value stands for: itself, or the number of a text. -/
def toFloat : Json → Option Json
  | .num n => some (.num n)
  | .str s => (Number.float? s).map fun x => .num (.float x)
  | _ => none

/-- The words for true and for false. -/
def trueWords : List String := ["true", "1", "yes", "on"]

@[inherit_doc trueWords]
def falseWords : List String := ["false", "0", "no", "off"]

/-- The truth value a value stands for. -/
def toBool : Json → Option Bool
  | .bool b => some b
  | .num (.int 0) => some false
  | .num (.int 1) => some true
  | .str s =>
    let word := Text.toLower (Text.trim s)
    if word ∈ trueWords then some true
    else if word ∈ falseWords then some false
    else none
  | _ => none

/-- One message. -/
def refuse (message : String) : FieldError := .messages [message]

/-- A value if there is one, else a message. -/
def orRefuse (message : String) : Option Json → Except FieldError Json
  | some v => .ok v
  | none => .error (refuse message)

/-- The list a value stands for; a single text is a list of one. -/
def toList : Json → Option (List Json)
  | .arr items => some items
  | .str s => some [.str s]
  | _ => none

/-- The dictionary a value stands for: an object, or the text of one. -/
def toDict : Json → Option Json
  | .obj entries => some (.obj entries)
  | .str s =>
    match Json.parse? s with
    | some (.obj entries) => some (.obj entries)
    | _ => none
  | _ => none

/-- A text changed by a reader of texts. -/
def viaText (f : String → Option String) (v : Json) : Option Json :=
  (v.asText?.bind f).map .str

/-- The value as one of a type; items of a list are taken as they are. -/
def toType (t : ValueType) (v : Json) : Except FieldError Json :=
  match t with
  | .integer => orRefuse "Not a valid integer." ((toInteger v).map Json.ofInt)
  | .float => orRefuse "Not a valid number." (toFloat v)
  | .string => orRefuse "Not a valid string." (viaText some v)
  | .boolean => orRefuse "Not a valid boolean." ((toBool v).map Json.bool)
  | .date => orRefuse "Not a valid date." (viaText (fun s => (Date.parse? s).map Date.text) v)
  | .datetime =>
    orRefuse "Not a valid datetime." (viaText (fun s => (DateTime.parse? s).map DateTime.text) v)
  | .uuid => orRefuse "Not a valid UUID." (viaText Uuid.parse? v)
  | .list => orRefuse "Not a valid list." ((toList v).map Json.arr)
  | .dict => orRefuse "Not a valid mapping type." (toDict v)

end Convert

/-- Adds what is wrong with one field. -/
def FieldErrors.add (errors : FieldErrors) (field : String) : FieldError → FieldErrors
  | .messages texts => errors.pushAll field texts
  | .nested inner => errors.nest field inner

namespace Convert

/-- The items as values of a type, with the errors under the places of the items. -/
def toItems (t : ValueType) (items : List Json) : FieldErrors × List Json :=
  items.zipIdx.foldl
    (fun (errors, out) (item, i) =>
      match toType t item with
      | .ok v => (errors, out ++ [v])
      | .error e => (errors.add i.repr e, out))
    (FieldErrors.empty, [])

/-- The value as one of a type, the items of a list as values of theirs. -/
def convert (t : ValueType) (items : Option ValueType) (v : Json) : Except FieldError Json :=
  match t, items with
  | .list, some item =>
    match toList v with
    | none => .error (refuse "Not a valid list.")
    | some list =>
      match toItems item list with
      | ([], out) => .ok (.arr out)
      | (errors, _) => .error (.nested errors)
  | _, _ => toType t v

theorem clampSigned64_isSigned64 (i : Int) : Number.isSigned64 (clampSigned64 i) = true := by
  rw [Number.isSigned64_iff, clampSigned64]
  omega

theorem toInteger_isSigned64 {v : Json} {i : Int} (h : toInteger v = some i) :
    Number.isSigned64 i = true := by
  cases v with
  | num n =>
    cases n with
    | int j =>
      simp only [toInteger, Option.some.injEq] at h
      exact h ▸ clampSigned64_isSigned64 j
    | float x =>
      obtain ⟨j, _, rfl⟩ := Option.map_eq_some_iff.mp h
      exact clampSigned64_isSigned64 j
  | str s => exact Number.integer?_isSigned64 h
  | _ => simp [toInteger] at h

end Convert

end RowServe
