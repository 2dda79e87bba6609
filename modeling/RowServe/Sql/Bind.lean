import RowServe.Json.Printer

/-!
# Bound parameters

Values travel beside a statement, never inside it. Each is bound under a name and has a
position; binding a name again gives the position it already has.
-/

namespace RowServe.Sql

/-- A parameter of a statement: a text that SQL casts, a JSON document, or an integer. -/
inductive Param where
  | text (s : Option String)
  | json (v : Json)
  | int (i : Option Int)
  deriving DecidableEq

namespace Param

/-- A scalar as its text, a compound value as a document. -/
def scalar : Json → Param
  | .null => text none
  | .bool b => text (some (if b then "true" else "false"))
  | .num n => text (some n.text)
  | .str s => text (some s)
  | .arr items => json (.arr items)
  | .obj entries => json (.obj entries)

/-- Any value as text: a string as it is, all else as compact JSON. -/
def asText : Json → Param
  | .str s => text (some s)
  | v => text (some v.compact)

end Param

/-- A statement with the parameters it is run with. -/
structure Command where
  text : String
  params : List Param
  deriving DecidableEq

/-- The parameters of a statement by position, each with the name it was bound under. -/
abbrev Binds := List (String × Param)

/-- A place in SQL text that stands for a parameter. Positions count from one. -/
structure Placeholder where
  position : Nat
  cast : Option String
  deriving DecidableEq, Repr

/-- The placeholder in SQL, as in `$2::integer`. -/
def Placeholder.render (p : Placeholder) : String :=
  "$" ++ p.position.repr ++ (match p.cast with | some t => "::" ++ t | none => "")

namespace Binds

/-- The names in order of position. -/
def names (b : Binds) : List String := b.map (·.1)

/-- The parameters in order of position. -/
def params (b : Binds) : List Param := b.map (·.2)

/-- The parameter a placeholder points at. -/
def value? (b : Binds) (p : Placeholder) : Option Param := b.params[p.position - 1]?

/-- The statement that is run with these parameters. -/
def command (b : Binds) (text : String) : Command := ⟨text, b.params⟩

/-- The position of a name, counted from zero. -/
def index? (b : Binds) (name : String) : Option Nat := b.names.idxOf? name

/-- Binds a value under a name and gives its place. A name that is already bound keeps
    its value. -/
def bind (b : Binds) (name : String) (value : Param) (cast : Option String) :
    Placeholder × Binds :=
  match b.index? name with
  | some i => (⟨i + 1, cast⟩, b)
  | none => (⟨b.length + 1, cast⟩, b ++ [(name, value)])

end Binds

end RowServe.Sql
