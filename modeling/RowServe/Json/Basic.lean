import RowServe.Keyed
import RowServe.Number.Basic

/-!
# JSON values

The values that requests, declarations and answers are made of. Objects keep their
entries sorted by key.
-/

namespace RowServe

/-- A JSON value. -/
inductive Json where
  | null
  | bool (b : Bool)
  | num (n : Number)
  | str (s : String)
  | arr (items : List Json)
  | obj (entries : List (String × Json))
  deriving Inhabited

/-- The entries of a JSON object, sorted by key. -/
abbrev Object := Keyed Json

namespace Json

/-! ## Equality -/

mutual

/-- Are two values the same, kind of number and sign of zero included? -/
def decEq : (a b : Json) → Decidable (a = b)
  | .null, .null => isTrue rfl
  | .bool a, .bool b =>
    if h : a = b then isTrue (by rw [h]) else isFalse (by intro e; injection e; contradiction)
  | .num a, .num b =>
    if h : a = b then isTrue (by rw [h]) else isFalse (by intro e; injection e; contradiction)
  | .str a, .str b =>
    if h : a = b then isTrue (by rw [h]) else isFalse (by intro e; injection e; contradiction)
  | .arr a, .arr b =>
    match decEqItems a b with
    | isTrue h => isTrue (by rw [h])
    | isFalse h => isFalse (by intro e; injection e; contradiction)
  | .obj a, .obj b =>
    match decEqEntries a b with
    | isTrue h => isTrue (by rw [h])
    | isFalse h => isFalse (by intro e; injection e; contradiction)
  | .null, .bool _ | .null, .num _ | .null, .str _ | .null, .arr _ | .null, .obj _
  | .bool _, .null | .bool _, .num _ | .bool _, .str _ | .bool _, .arr _ | .bool _, .obj _
  | .num _, .null | .num _, .bool _ | .num _, .str _ | .num _, .arr _ | .num _, .obj _
  | .str _, .null | .str _, .bool _ | .str _, .num _ | .str _, .arr _ | .str _, .obj _
  | .arr _, .null | .arr _, .bool _ | .arr _, .num _ | .arr _, .str _ | .arr _, .obj _
  | .obj _, .null | .obj _, .bool _ | .obj _, .num _ | .obj _, .str _ | .obj _, .arr _ =>
    isFalse (by intro e; cases e)

/-- The same for lists of values. -/
def decEqItems : (a b : List Json) → Decidable (a = b)
  | [], [] => isTrue rfl
  | [], _ :: _ | _ :: _, [] => isFalse (by intro e; cases e)
  | a :: as, b :: bs =>
    match decEq a b, decEqItems as bs with
    | isTrue h, isTrue hs => isTrue (by rw [h, hs])
    | isFalse h, _ => isFalse (by intro e; injection e; contradiction)
    | _, isFalse h => isFalse (by intro e; injection e; contradiction)

/-- The same for the entries of objects. -/
def decEqEntries : (a b : List (String × Json)) → Decidable (a = b)
  | [], [] => isTrue rfl
  | [], _ :: _ | _ :: _, [] => isFalse (by intro e; cases e)
  | (k, a) :: as, (l, b) :: bs =>
    if hk : k = l then
      match decEq a b, decEqEntries as bs with
      | isTrue h, isTrue hs => isTrue (by rw [hk, h, hs])
      | isFalse h, _ => isFalse (by intro e; injection e with e; injection e; contradiction)
      | _, isFalse h => isFalse (by intro e; injection e; contradiction)
    else isFalse (by intro e; injection e with e; injection e; contradiction)

end

instance : DecidableEq Json := decEq

/-! ## Small values -/

/-- The integer as a value. -/
def ofInt (i : Int) : Json := .num (.int i)

/-- The object with these entries; of entries with one key the last one counts. -/
def ofEntries (entries : List (String × Json)) : Json := .obj (Keyed.ofList entries)

/-- The texts as an array. -/
def ofTexts (texts : List String) : Json := .arr (texts.map .str)

/-- A value, or null for none. -/
def ofOption (f : α → Json) : Option α → Json
  | some a => f a
  | none => .null

/-- Is the value null? -/
def isNull : Json → Bool
  | .null => true
  | _ => false

/-- The text of a string value. -/
def asText? : Json → Option String
  | .str s => some s
  | _ => none

/-- The signed 64-bit integer of a value. -/
def asSigned64? : Json → Option Int
  | .num (.int i) => if Number.isSigned64 i then some i else none
  | _ => none

/-- The value under a key of an object. -/
def field? (k : String) : Json → Option Json
  | .obj m => Keyed.find? k m
  | _ => none

end Json

end RowServe
