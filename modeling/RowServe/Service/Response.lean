import RowServe.Request.Error

/-!
# Responses

What a request is answered with.
-/

namespace RowServe

/-- The body of a response. -/
inductive Body where
  | json (v : Json)
  | text (s : String)
  deriving DecidableEq

/-- A status with a body. -/
structure Response where
  status : Nat
  body : Body
  deriving DecidableEq

namespace Response

/-- A success. -/
def ok (v : Json) : Response := ⟨200, .json v⟩

/-- Something was created. -/
def created (v : Json) : Response := ⟨201, .json v⟩

/-- The response that tells an error. -/
def ofError (e : RequestError) : Response := ⟨e.status, .json e.body⟩

/-- The response for a result. -/
def ofResult : Except RequestError Response → Response
  | .ok r => r
  | .error e => ofError e

end Response

end RowServe
