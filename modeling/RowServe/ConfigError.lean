import RowServe.Sql.Template

/-!
# Configuration errors

Why the declarations, the environment or the wiring of a service are refused. Each
cause is a constructor; its wording is in one place.
-/

namespace RowServe

/-- What a missing reference should have led to. -/
inductive ReferenceKind where
  | reference | table | column | hookResource | predicate
  deriving DecidableEq, Repr

/-- The name of the kind. -/
def ReferenceKind.name : ReferenceKind → String
  | reference => "reference"
  | table => "table"
  | column => "column"
  | hookResource => "hook resource"
  | predicate => "predicate"

/-- What is wrong with the primary key of a resource. -/
inductive KeyFault where
  | notStored | missing | repeated
  deriving DecidableEq, Repr

/-- The reason given for it. -/
def KeyFault.reason : KeyFault → String
  | notStored => "primary key has no storage type"
  | missing => "no primary key declared"
  | repeated => "more than one primary key declared"

/-- The declared lists that name fields. -/
inductive FieldList where
  | getBy | listBy | deleteBy | excludeFromUpdates | uniqueTogether
  deriving DecidableEq, Repr

/-- The key of the list in a declaration. -/
def FieldList.name : FieldList → String
  | getBy => "get_by"
  | listBy => "list_by"
  | deleteBy => "delete_by"
  | excludeFromUpdates => "exclude_from_updates"
  | uniqueTogether => "unique_together"

/-- Declarations that are well formed and still cannot be. -/
inductive DeclarationFault where
  | declaredTwice (resource : String)
  | routeNotAvailable (resource route : String)
  | extendedTwice (parent column : String)
  | badPattern (resource field : String)
  | invalidPattern (field : String)
  | manyNotJsonb (resource field : String)
  deriving DecidableEq, Repr

/-- The text of the fault. -/
def DeclarationFault.message : DeclarationFault → String
  | declaredTwice resource => "resource " ++ resource ++ " declared twice"
  | routeNotAvailable resource route =>
    "resource " ++ resource ++ ": route '" ++ route ++ "' is not available"
  | extendedTwice parent column =>
    parent ++ "." ++ column ++ " is extended by more than one resource"
  | badPattern resource field => resource ++ "." ++ field ++ ": bad pattern:"
  | invalidPattern field => "field " ++ field ++ ": invalid pattern:"
  | manyNotJsonb resource field =>
    resource ++ "." ++ field ++ ": many-to-many fields are stored as jsonb"

/-- Why a configuration is refused. -/
inductive ConfigError where
  | missingReference (kind : ReferenceKind) (id : String)
  | invalidPrimaryKey (resource : String) (fault : KeyFault)
  | duplicateRoute (route : String)
  | unknownField (resource : String) (list : FieldList) (field : String)
  | missingExtensionTarget (resource : String)
  | environment (key value : String)
  | unreadable
  | template (e : Sql.TemplateError)
  | invalid (fault : DeclarationFault)
  deriving DecidableEq, Repr

/-- The text of the error. -/
def ConfigError.message : ConfigError → String
  | missingReference kind id => "missing reference: " ++ kind.name ++ " '" ++ id ++ "'"
  | invalidPrimaryKey resource fault =>
    "invalid primary key on " ++ resource ++ ": " ++ fault.reason
  | duplicateRoute route => "duplicate route: " ++ route
  | unknownField resource list field =>
    "resource " ++ resource ++ ": unknown field '" ++ field ++ "' in " ++ list.name
  | missingExtensionTarget resource =>
    "resource " ++ resource ++ ": nested extension requires a parent and an extension column"
  | environment key value => "environment variable " ++ key ++ ": invalid value '" ++ value ++ "'"
  | unreadable => "config load:"
  | template e => "template: " ++ e.message
  | invalid fault => "validation: " ++ fault.message

end RowServe
