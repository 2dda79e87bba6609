import RowServe.Resource.Selection

/-!
# Requested selections

The names after `select` as a selection. A plain name asks for a readable field, a
dotted name for one field of a linked row; several dotted names narrow one link further.

Results:

* `parse_ok_iff`: a request is taken exactly if every name in it is.
-/

namespace RowServe

/-- What one name asks for. -/
inductive RequestedField where
  | whole (name : String)
  | part (name sub : String)
  deriving DecidableEq, Repr

namespace Selection

/-- What a name asks for, if the resource has it to show. -/
def requested? (r : Resource) (name : String) : Option RequestedField :=
  match Text.splitOnce '.' name.toList with
  | some (outer, inner) =>
    let outer := String.ofList outer
    let inner := String.ofList inner
    if (r.join? outer).any fun j => j.casts.has inner then some (.part outer inner) else none
  | none =>
    if ((r.field? name).any Field.isReadable) && r.kidColumn ≠ some name then some (.whole name)
    else none

/-- Narrows a selected field to one more field of its linked row. -/
def narrow (s : Selected) (sub : String) : Selected :=
  let subs := s.sub.getD []
  { s with sub := some (if subs.contains sub then subs else subs ++ [sub]) }

/-- Adds what one name asks for. -/
def add (x : RequestedField) : List Selected → List Selected
  | [] =>
    match x with
    | .whole name => [⟨name, none⟩]
    | .part name sub => [⟨name, some [sub]⟩]
  | s :: rest =>
    match x with
    | .whole name => if s.name = name then s :: rest else s :: add x rest
    | .part name sub => if s.name = name then narrow s sub :: rest else s :: add x rest

/-- The selection for all that is asked for. -/
def collect (xs : List RequestedField) : List Selected := xs.foldl (fun out x => add x out) []

/-- The names that the resource does not show. -/
def unknown (r : Resource) (names : List String) : List String :=
  names.filter fun n => (requested? r n).isNone

/-- The selection that names ask for. -/
def parse (r : Resource) (names : List String) : Except FieldErrors (List Selected) :=
  match unknown r names with
  | [] => .ok (collect (names.filterMap (requested? r)))
  | bad => .error (.single "select" ("Invalid field name(s): " ++ ", ".intercalate bad ++ "."))

/-- The selection of a request and the rest of its input; there may be none. -/
def take (r : Resource) (input : Object) : Except FieldErrors (Option (List Selected) × Object) :=
  match input.find? "select" with
  | none => .ok (none, input)
  | some raw =>
    match raw.nameList with
    | [] => .error (.single "select" ValidationRule.emptyMessage)
    | names => (parse r names).map fun s => (some s, input.erase "select")

theorem parse_ok_iff (r : Resource) (names : List String) :
    (∃ s, parse r names = .ok s) ↔ ∀ n ∈ names, (requested? r n).isSome := by
  have h : unknown r names = [] ↔ ∀ n ∈ names, (requested? r n).isSome := by
    simp [unknown, Option.isSome_iff_ne_none]
  rw [← h]
  simp only [parse]
  split <;> simp_all

end Selection

end RowServe
