import RowServe.Request.Error
import RowServe.Resource.Basic
import RowServe.Session

/-!
# Permissions

Whether a session may use an operation. A resource without permissions is open. With
permissions, an operation is public, or open to some roles, or open where a named
predicate holds of the session and the request; an operation that is none of these is
open to nobody.

Results:

* `authorize_ok_iff`: who is let through.
* `clearance_granted_iff`: what permissions grant by themselves.
-/

namespace RowServe

/-- A question about a session and what its request is aimed at. -/
abbrev RowPredicate := Session → Option Json → Bool

namespace RowPredicate

/-- Always the same answer. -/
def constant (holds : Bool) : RowPredicate := fun _ _ => holds

/-- Does the session have the role? -/
def hasRole (role : String) : RowPredicate := fun s _ => s.hasRole role

/-- Does the target name the actor in a field? Without an actor, does it name nobody? -/
def fieldIsActor (field : String) : RowPredicate := fun s target =>
  ((target.bind fun t => t.field? field).bind Json.asText?) = s.actorId

end RowPredicate

/-- What permissions say by themselves. -/
inductive Clearance where
  | granted
  | refused (e : RequestError)
  /-- It depends on the named predicate. -/
  | depends (predicate : String)

/-- The role that every session with an actor has. -/
def anyRole : String := "*"

/-- Does the session have one of the roles? -/
def Session.hasOneOf (s : Session) (roles : List String) : Bool :=
  roles.any fun r => r = anyRole || s.hasRole r

/-- Do permissions allow the operation to the session? -/
def Permissions.clearance (p : Permissions) (op : Operation) (s : Session) : Clearance :=
  if p.public.contains op then .granted
  else if !s.isAuthenticated then .refused .unauthorized
  else
    match p.authenticated.lookup op with
    | none => .refused .forbidden
    | some (.roles roles) => if s.hasOneOf roles then .granted else .refused .forbidden
    | some (.predicate name) => .depends name

namespace Resource

/-- Is the operation open to the session? -/
def clearance (r : Resource) (op : Operation) (s : Session) : Clearance :=
  match r.permissions with
  | none => .granted
  | some p => p.clearance op s

/-- The verdict once the predicate is answered. -/
def verdict (holds : Bool) : Except RequestError Unit := if holds then .ok () else .error .forbidden

/-- Is the operation open to the session? Predicates that are not known do not hold. -/
def authorize (r : Resource) (op : Operation) (s : Session) (predicates : Keyed RowPredicate)
    (target : Option Json) : Except RequestError Unit :=
  match r.clearance op s with
  | .granted => .ok ()
  | .refused e => .error e
  | .depends name => verdict ((predicates.find? name).any fun p => p s target)

theorem clearance_granted_iff {p : Permissions} {op : Operation} {s : Session} :
    p.clearance op s = .granted ↔
      op ∈ p.public ∨ s.isAuthenticated = true ∧
        ∃ roles, p.authenticated.lookup op = some (.roles roles) ∧ s.hasOneOf roles = true := by
  unfold Permissions.clearance
  by_cases hpublic : op ∈ p.public
  · simp [hpublic]
  · by_cases hactor : s.isAuthenticated = true
    · rcases p.authenticated.lookup op with _ | (roles | name)
      · simp [hpublic, hactor]
      · simp [hpublic, hactor]
      · simp [hpublic, hactor]
    · simp [hpublic, hactor]

theorem authorize_ok_iff (r : Resource) (op : Operation) (s : Session)
    (predicates : Keyed RowPredicate) (target : Option Json) :
    r.authorize op s predicates target = .ok () ↔
      r.clearance op s = .granted ∨
        ∃ name p, r.clearance op s = .depends name ∧ predicates.find? name = some p ∧
          p s target = true := by
  simp only [authorize]
  cases h : r.clearance op s with
  | granted => simp
  | refused e => simp
  | depends name =>
    cases hp : Keyed.find? name predicates with
    | none => simp [verdict, hp]
    | some p =>
      cases hb : p s target <;> simp [verdict, hb, hp]

end Resource

end RowServe
