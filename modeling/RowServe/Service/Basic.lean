import RowServe.Hook.Basic
import RowServe.Resource.Permission

/-!
# Services

The resources that are served, with the hooks and predicates registered for them. A
service is only made if every name that leads from one to the other leads somewhere.

Results:

* `create_eq_ok_iff`: which registries, hooks and predicates make a service.
-/

namespace RowServe

/-- Resources with their hooks and predicates. -/
structure Service where
  registry : Registry
  /-- The hooks by resource name. -/
  hooks : Keyed Hooks
  predicates : Keyed RowPredicate

namespace Service

/-- The predicates that the permissions of a resource name. -/
def predicatesOf (r : Resource) : List String :=
  match r.permissions with
  | none => []
  | some p => p.authenticated.filterMap fun (_, access) =>
    match access with
    | .predicate name => some name
    | .roles _ => none

/-- The first name that leads nowhere. -/
def dangling? (s : Service) : Option ConfigError :=
  match s.hooks.keys.find? fun name => (s.registry.byName? name).isNone with
  | some name => some (.missingReference .hookResource name)
  | none =>
    ((s.registry.resources.flatMap predicatesOf).find? fun name => !s.predicates.has name).map
      (.missingReference .predicate ·)

/-- The service of a registry. -/
def create (registry : Registry) (hooks : Keyed Hooks) (predicates : Keyed RowPredicate) :
    Except ConfigError Service :=
  let s : Service := ⟨registry, hooks, predicates⟩
  match s.dangling? with
  | some e => .error e
  | none => .ok s

/-- The hooks of a resource. -/
def hooksOf? (s : Service) (r : Resource) : Option Hooks := s.hooks.find? r.name

theorem dangling?_eq_none_iff {s : Service} :
    s.dangling? = none ↔
      (∀ name ∈ s.hooks.keys, (s.registry.byName? name).isSome = true) ∧
        ∀ r ∈ s.registry.resources, ∀ name ∈ predicatesOf r, s.predicates.has name = true := by
  unfold dangling?
  cases h : s.hooks.keys.find? fun name => (s.registry.byName? name).isNone with
  | some name =>
    have hmissing := List.find?_some h
    refine iff_of_false nofun fun hall => ?_
    have hthere := hall.1 name (List.mem_of_find?_eq_some h)
    rw [Option.isNone_iff_eq_none.mp hmissing] at hthere
    contradiction
  | none =>
    have hhooks : ∀ name ∈ s.hooks.keys, (s.registry.byName? name).isSome = true := by
      simpa [Option.isSome_iff_ne_none] using h
    simp only [Option.map_eq_none_iff, List.find?_eq_none, List.mem_flatMap]
    constructor
    · intro hall
      exact ⟨hhooks, fun r hr name hname => by simpa using hall name ⟨r, hr, hname⟩⟩
    · rintro ⟨-, hall⟩ name ⟨r, hr, hname⟩
      simp [hall r hr name hname]

theorem create_eq_ok_iff {registry : Registry} {hooks : Keyed Hooks}
    {predicates : Keyed RowPredicate} {s : Service} :
    create registry hooks predicates = .ok s ↔
      s = ⟨registry, hooks, predicates⟩ ∧
        (∀ name ∈ hooks.keys, (registry.byName? name).isSome = true) ∧
        ∀ r ∈ registry.resources, ∀ name ∈ predicatesOf r, predicates.has name = true := by
  unfold create
  dsimp only
  rw [← dangling?_eq_none_iff (s := ⟨registry, hooks, predicates⟩)]
  cases dangling? ⟨registry, hooks, predicates⟩ with
  | some e => simp
  | none => simp [eq_comm]

end Service

end RowServe
