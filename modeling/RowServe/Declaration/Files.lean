import RowServe.Declaration.Reader

/-!
# Declarations in files

Declarations are loaded from one file, or from the files of a directory whose names end
in `.json`, in the order of their names.

Results:

* `ofDirectory_eq_ok_iff`: a directory is loaded exactly if each of its listed files is, and it
  declares what they declare, in their order.
-/

namespace RowServe

/-- What stands under a name in a directory. -/
inductive DirectoryEntry where
  | file (content : String)
  | directory
  deriving DecidableEq, Repr

/-- The entries of a directory by name. -/
abbrev Directory := Keyed DirectoryEntry

namespace Declarations

/-- What follows the last point of a file name; a point at the very start does not count. -/
def extension? (name : String) : Option String :=
  match Text.splitLast '.' name.toList with
  | some ([], _) | none => none
  | some (_, rest) => some (String.ofList rest)

/-- Is a file of this name loaded with its directory? -/
def isListed (name : String) : Bool := extension? name = some "json"

/-- The declarations of a file. -/
def ofEntry : DirectoryEntry → Except ConfigError Declarations
  | .file content => parse content
  | .directory => .error .unreadable

/-- The declarations of several files, one after the other. -/
def ofEntries : Directory → Except ConfigError Declarations
  | [] => .ok []
  | (_, entry) :: rest => do
    let first ← ofEntry entry
    let others ← ofEntries rest
    return first ++ others

/-- The declarations of a directory. -/
def ofDirectory (d : Directory) : Except ConfigError Declarations :=
  ofEntries (d.filter fun e => isListed e.1)

/-- The declarations under a name in a directory; directories inside it are empty. -/
def ofName (d : Directory) (name : String) : Except ConfigError Declarations :=
  match d.find? name with
  | some (.file content) => parse content
  | some .directory => ofDirectory []
  | none => .error .unreadable

theorem ofEntries_eq_ok_iff {d : Directory} {ds : Declarations} :
    ofEntries d = .ok ds ↔
      ∃ parts : List Declarations,
        d.map (fun e => ofEntry e.2) = parts.map .ok ∧ ds = parts.flatten := by
  induction d generalizing ds with
  | nil =>
    constructor
    · intro h
      exact ⟨[], rfl, (Except.ok.inj h).symm⟩
    · rintro ⟨parts, hparts, rfl⟩
      rw [List.map_eq_nil_iff.mp hparts.symm]
      rfl
  | cons e d ih =>
    constructor
    · intro h
      cases hfirst : ofEntry e.2 with
      | error _ => simp [ofEntries, hfirst, bind, Except.bind] at h
      | ok first =>
        cases hothers : ofEntries d with
        | error _ => simp [ofEntries, hfirst, hothers, bind, Except.bind] at h
        | ok others =>
          obtain ⟨parts, hparts, rfl⟩ := ih.mp hothers
          rw [ofEntries, hfirst, hothers] at h
          exact ⟨first :: parts, List.cons_eq_cons.mpr ⟨hfirst, hparts⟩, (Except.ok.inj h).symm⟩
    · rintro ⟨parts, hparts, rfl⟩
      cases parts with
      | nil => contradiction
      | cons first parts =>
        obtain ⟨hfirst, hothers⟩ : ofEntry e.2 = .ok first ∧ _ := List.cons_eq_cons.mp hparts
        rw [ofEntries, hfirst, ih.mpr ⟨parts, hothers, rfl⟩]
        rfl

theorem ofDirectory_eq_ok_iff {d : Directory} {ds : Declarations} :
    ofDirectory d = .ok ds ↔
      ∃ parts : List Declarations,
        (d.filter fun e => isListed e.1).map (fun e => ofEntry e.2) = parts.map .ok ∧
          ds = parts.flatten :=
  ofEntries_eq_ok_iff

end Declarations

end RowServe
