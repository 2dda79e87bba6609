import RowServe.ConfigError
import RowServe.Declaration.Basic
import RowServe.Pattern.Reader

/-!
# Checking declarations

Declarations are checked resource by resource, in the order of registration, and the
first fault found is the answer: names and routes, the column a nested extension lives
in, the lists of fields, then the fields themselves.

Results:

* `forEach_ok_iff`: all of a list is checked exactly if each member passes.
-/

namespace RowServe.Declarations

/-- Routes that the service answers itself. -/
def reservedRoutes : List String := ["health", "ready", "version"]

/-- Fails with an error unless a condition holds. -/
def ensure (holds : Bool) (e : ConfigError) : Except ConfigError Unit :=
  if holds then .ok () else .error e

/-- Checks each member in turn. -/
def forEach (check : α → Except ConfigError Unit) : List α → Except ConfigError Unit
  | [] => .ok ()
  | a :: rest => do
    check a
    forEach check rest

theorem forEach_ok_iff (check : α → Except ConfigError Unit) (as : List α) :
    forEach check as = .ok () ↔ ∀ a ∈ as, check a = .ok () := by
  induction as with
  | nil => simp [forEach]
  | cons a as ih =>
    simp only [forEach, List.mem_cons, forall_eq_or_imp]
    cases h : check a with
    | ok u => simpa [bind, Except.bind] using ih
    | error e => simp [bind, Except.bind]

/-- Each name of a list is a field of the resource or of one it inherits from. -/
def checkNames (r : ResourceDecl) (list : FieldList) (names : List String)
    (inherited : List ResourceDecl) : Except ConfigError Unit :=
  forEach (fun name =>
    ensure (r.hasField name || inherited.any (·.hasField name))
      (.unknownField r.name list name)) names

/-- The names, routes and extended columns of the resources checked before. -/
structure Claimed where
  names : List String
  routes : List String
  columns : List (String × String)

/-- Nothing is taken yet. -/
def Claimed.nothing : Claimed := ⟨[], [], []⟩

/-- The route of a resource is usable and free; resources without views need none. -/
def checkRoute (r : ResourceDecl) (claimed : Claimed) : Except ConfigError Claimed := do
  if r.info.createViews then
    let route := r.route
    ensure (!route.isEmpty && !route.toList.contains '/' && !reservedRoutes.contains route)
      (.invalid (.routeNotAvailable r.name route))
    ensure (!claimed.routes.contains route) (.duplicateRoute route)
    return { claimed with routes := claimed.routes ++ [route] }
  else return claimed

/-- The parent of a nested extension: a resource with a table of its own and a binary
    JSON column of the given name, which nothing else extends. -/
def checkExtension (ds : Declarations) (r : ResourceDecl) (claimed : Claimed) :
    Except ConfigError (Option ResourceDecl × Claimed) :=
  match r.info.extendsOn with
  | none => .ok (none, claimed)
  | some ext =>
    match (ds.byName? ext.parent).filter (!·.isKid) with
    | none => .error (.missingExtensionTarget r.name)
    | some parent =>
      match (parent.field? ext.column).filter (fun f => f.sql.any SqlType.isJsonb) with
      | none => .error (.missingExtensionTarget r.name)
      | some column =>
        let place := (parent.name, column.name)
        if claimed.columns.contains place then
          .error (.invalid (.extendedTwice parent.name column.name))
        else .ok (some parent, { claimed with columns := claimed.columns ++ [place] })

/-- The lists of a resource name fields that there are. -/
def checkLists (r : ResourceDecl) (inherited : List ResourceDecl) : Except ConfigError Unit := do
  checkNames r .getBy (r.info.getBy.getD []) inherited
  checkNames r .listBy (r.info.listBy.getD []) inherited
  checkNames r .deleteBy (r.info.deleteBy.getD []) inherited
  checkNames r .excludeFromUpdates r.info.excludeFromUpdates inherited
  forEach (fun group => checkNames r .uniqueTogether group []) r.info.uniqueTogether

/-- A field has a usable pattern, and refers to a stored column if it refers to anything. -/
def checkField (ds : Declarations) (r : ResourceDecl) (d : FieldDecl) :
    Except ConfigError Unit := do
  ensure (d.rule.pattern.all fun p => (Pattern.parse? p).isSome)
    (.invalid (.badPattern r.name d.name))
  if d.references.isSome then
    match d.target? with
    | none => .error (.missingReference .reference (r.name ++ "." ++ d.name))
    | some (table, column) =>
      match ds.byTable? table with
      | none => .error (.missingReference .table table)
      | some target =>
        ensure ((target.field? column).any (·.sql.isSome))
          (.missingReference .column (table ++ "." ++ column))
        ensure (!d.many || d.sql.any SqlType.isJsonb) (.invalid (.manyNotJsonb r.name d.name))
  else .ok ()

/-- Checks one resource and adds what it claims. -/
def checkResource (ds : Declarations) (claimed : Claimed) (r : ResourceDecl) :
    Except ConfigError Claimed := do
  ensure (!claimed.names.contains r.name) (.invalid (.declaredTwice r.name))
  let claimed := { claimed with names := claimed.names ++ [r.name] }
  let claimed ← checkRoute r claimed
  let (parent, claimed) ← checkExtension ds r claimed
  checkLists r parent.toList
  forEach (checkField ds r) r.fields
  return claimed

/-- Checks the remaining resources. -/
def checkFrom (ds : Declarations) (claimed : Claimed) : List ResourceDecl → Except ConfigError Unit
  | [] => .ok ()
  | r :: rest => do
    let claimed ← checkResource ds claimed r
    checkFrom ds claimed rest

/-- Checks all declarations. -/
def check (ds : Declarations) : Except ConfigError Unit := checkFrom ds .nothing ds

end RowServe.Declarations
