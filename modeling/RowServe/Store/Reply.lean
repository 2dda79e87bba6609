import RowServe.Contract.Validate
import RowServe.Request.Error
import RowServe.Store.ConstraintDetail

/-!
# Replies of the store

What comes back for a statement, and how it is read. Errors of the store that are about
the data become field errors; all others stay errors of the store.
-/

namespace RowServe

/-- The first column of a row. -/
inductive Cell where
  | json (v : Json)
  | null
  | count (n : Int)
  | flag (b : Bool)
  deriving DecidableEq

/-- An error that the store reports. -/
structure StoreFailure where
  code : String
  message : String
  detail : Option String
  column : Option String
  deriving DecidableEq

/-- What comes back for a statement. -/
inductive Reply where
  | noRow
  | row (first : Cell)
  | failed (failure : StoreFailure)
  /-- No answer came in time. -/
  | timedOut
  /-- There was no connection to send the statement on. -/
  | unavailable
  deriving DecidableEq

namespace StoreFailure

/-- The code of a null in a column that has to have a value. -/
def nullCode : String := "23502"

/-- The error as it is. -/
def plain (f : StoreFailure) : RequestError := .store (.reported f.message)

/-- The field errors of a broken constraint: those of its detail, or the message. -/
def constraintErrors (f : StoreFailure) : FieldErrors :=
  (f.detail.bind ConstraintDetail.fieldErrors?).getD (.single "_schema" f.message)

/-- Broken constraints (class 23) and unfit data (class 22) are errors of fields. -/
def explained (f : StoreFailure) : RequestError :=
  match f.column with
  | some column =>
    if f.code = nullCode then .field column Contract.nullMessage else byClass
  | none => byClass
where
  /-- The error by the class of its code. -/
  byClass : RequestError :=
    if f.code.startsWith "23" then .invalid f.constraintErrors
    else if f.code.startsWith "22" then .field "_schema" f.message
    else f.plain

end StoreFailure

namespace Reply

/-- The first row if there is one; `explain` says what an error of the store means. -/
def row? (explain : StoreFailure → RequestError) : Reply → Except RequestError (Option Cell)
  | noRow => .ok none
  | row first => .ok (some first)
  | failed f => .error (explain f)
  | timedOut => .error .timeout
  | unavailable => .error (.store .unavailable)

/-- The JSON value of the first row; null counts as no value. -/
def value (r : Reply) : Except RequestError (Option Json) := do
  match ← r.row? StoreFailure.explained with
  | none | some .null => return none
  | some (.json v) => return some v
  | some (.count _) | some (.flag _) => throw (.store .badColumn)

/-- The count of the first row; no row counts nothing. -/
def count (r : Reply) : Except RequestError Int := do
  match ← r.row? StoreFailure.explained with
  | none => return 0
  | some (.count n) => return n
  | some _ => throw (.store .badColumn)

/-- The truth value of the first row, which has to be there. -/
def flag (r : Reply) : Except RequestError Bool := do
  match ← r.row? StoreFailure.plain with
  | none => throw (.store .noRow)
  | some (.flag b) => return b
  | some _ => throw (.store .badColumn)

/-- Whether a statement succeeded, whatever its rows. -/
def success (r : Reply) : Except RequestError Unit := do
  let _ ← r.row? StoreFailure.plain
  return ()

end Reply

end RowServe
