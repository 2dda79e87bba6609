import RowServe.Json.Basic

/-!
# Equal values

When a value counts as one of a list of allowed values: numbers are compared by value
across both kinds, all else by structure. Inside of arrays and objects an integer and a
binary64 number are never equal; the two zeros always are.

Results:

* `sameStructure_refl`: every value has the structure of itself.
-/

namespace RowServe

/-- Are two numbers of one kind and one value? -/
def Number.sameStructure : Number → Number → Bool
  | .int i, .int j => i == j
  | .float x, .float y => x.sameValue y
  | _, _ => false

namespace Json

mutual

/-- Are two values the same but for the sign of zeros? -/
def sameStructure : Json → Json → Bool
  | .null, .null => true
  | .bool a, .bool b => a == b
  | .num a, .num b => a.sameStructure b
  | .str a, .str b => a == b
  | .arr a, .arr b => sameItems a b
  | .obj a, .obj b => sameEntries a b
  | _, _ => false

/-- The same for array items. -/
def sameItems : List Json → List Json → Bool
  | [], [] => true
  | a :: as, b :: bs => sameStructure a b && sameItems as bs
  | _, _ => false

/-- The same for object entries. -/
def sameEntries : List (String × Json) → List (String × Json) → Bool
  | [], [] => true
  | (k, a) :: as, (l, b) :: bs => k == l && sameStructure a b && sameEntries as bs
  | _, _ => false

end

/-- Does a value equal an allowed one? -/
def equals : Json → Json → Bool
  | .num a, .num b => a.toBinary64.sameValue b.toBinary64
  | a, b => sameStructure a b

theorem number_sameStructure_refl (n : Number) : n.sameStructure n = true := by
  cases n <;> simp [Number.sameStructure, Binary64.sameValue]

mutual

theorem sameStructure_refl : ∀ v : Json, sameStructure v v = true
  | .null => rfl
  | .bool b => by simp [sameStructure]
  | .num n => by simp [sameStructure, number_sameStructure_refl]
  | .str s => by simp [sameStructure]
  | .arr items => by simp [sameStructure, sameItems_refl items]
  | .obj entries => by simp [sameStructure, sameEntries_refl entries]

theorem sameItems_refl : ∀ items : List Json, sameItems items items = true
  | [] => rfl
  | v :: rest => by simp [sameItems, sameStructure_refl v, sameItems_refl rest]

theorem sameEntries_refl : ∀ entries : List (String × Json), sameEntries entries entries = true
  | [] => rfl
  | (k, v) :: rest => by simp [sameEntries, sameStructure_refl v, sameEntries_refl rest]

end

end Json

end RowServe
