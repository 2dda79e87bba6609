import RowServe.Text.Blank
import RowServe.Text.NameList

/-!
# Sessions

Who sends a request: an actor with roles, perhaps inside a workspace. A request without
an actor is anonymous.

Results:

* `ofHeaders_filled`: no header gives an empty name.
-/

namespace RowServe

/-- Who sends a request. -/
structure Session where
  actorId : Option String
  roles : List String
  workspace : Option String
  deriving DecidableEq, Repr

namespace Session

/-- Nobody in particular. -/
def anonymous : Session := ⟨none, [], none⟩

/-- Is there an actor? -/
def isAuthenticated (s : Session) : Bool := s.actorId.isSome

/-- Does the session have the role? -/
def hasRole (s : Session) (role : String) : Bool := s.roles.contains role

/-- A value with the blanks around it removed, unless nothing is left. -/
def filled? (value : String) : Option String :=
  let value := Text.trim value
  if value.isEmpty then none else some value

/-- The session that identity headers describe; `header` looks up a header by name. -/
def ofHeaders (header : String → Option String) : Session where
  actorId := (header "x-actor-id").bind filled?
  roles := (((header "x-roles").bind filled?).map Text.names).getD []
  workspace := (header "x-workspace").bind filled?

theorem filled?_ne_empty {value name : String} (h : filled? value = some name) : name ≠ "" := by
  unfold filled? at h
  dsimp only at h
  split at h
  · cases h
  · rename_i hfilled
    obtain rfl := Option.some.inj h
    simpa using hfilled

theorem ofHeaders_filled (header : String → Option String) :
    (ofHeaders header).actorId ≠ some "" ∧ (ofHeaders header).workspace ≠ some "" ∧
      "" ∉ (ofHeaders header).roles := by
  have hname (key : String) : (header key).bind filled? ≠ some "" := by
    intro h
    obtain ⟨_, _, hfilled⟩ := Option.bind_eq_some_iff.mp h
    exact filled?_ne_empty hfilled rfl
  refine ⟨hname _, hname _, fun hrole => ?_⟩
  unfold ofHeaders at hrole
  cases hroles : (header "x-roles").bind filled? with
  | none => simp [hroles] at hrole
  | some roles =>
    rw [hroles] at hrole
    exact Text.names_nonempty hrole rfl

end Session

end RowServe
