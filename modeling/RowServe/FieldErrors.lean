import RowServe.Json.Printer

/-!
# Field errors

What is wrong with the fields of an object: under the name of a field stands a list of
messages, or the field errors of the object inside it.

Results:

* `mem_keys_push`: a pushed message makes its field one with errors.
-/

namespace RowServe

/-- What is wrong with one field. -/
inductive FieldError where
  | messages (texts : List String)
  | nested (errors : List (String × FieldError))
  deriving Inhabited

/-- What is wrong with the fields of an object, by field name. -/
abbrev FieldErrors := Keyed FieldError

namespace FieldError

mutual

/-- The JSON form: an array of messages or an object. -/
def toJson : FieldError → Json
  | .messages texts => .ofTexts texts
  | .nested errors => .obj (toJsonEntries errors)

/-- The JSON forms of the entries. -/
def toJsonEntries : List (String × FieldError) → Object
  | [] => []
  | (k, e) :: rest => (k, toJson e) :: toJsonEntries rest

end

end FieldError

namespace FieldErrors

/-- No errors. -/
def empty : FieldErrors := []

/-- Adds a message to those of a field. Nested errors of the field give way to it. -/
def push (errors : FieldErrors) (field message : String) : FieldErrors :=
  match errors.find? field with
  | some (.messages texts) => errors.insert field (.messages (texts ++ [message]))
  | _ => errors.insert field (.messages [message])

/-- Adds messages one after the other. -/
def pushAll (errors : FieldErrors) (field : String) (messages : List String) : FieldErrors :=
  messages.foldl (fun e m => e.push field m) errors

/-- Sets the nested errors of a field, in place of what was there. -/
def nest (errors : FieldErrors) (field : String) (inner : FieldErrors) : FieldErrors :=
  errors.insert field (.nested inner)

/-- One message for one field. -/
def single (field message : String) : FieldErrors := push [] field message

/-- All errors as the nested errors of one field. -/
def wrap (errors : FieldErrors) (field : String) : FieldErrors := nest [] field errors

/-- The JSON object of the errors. -/
def toJson (errors : FieldErrors) : Json := .obj (FieldError.toJsonEntries errors)

/-- The errors as compact JSON text. -/
def text (errors : FieldErrors) : String := errors.toJson.compact

theorem mem_keys_push (errors : FieldErrors) (field message : String) :
    field ∈ Keyed.keys (errors.push field message) := by
  have h : ∀ e, Keyed.find? field (Keyed.insert field e errors) ≠ none := by
    intro e; simp [Keyed.find?_insert]
  simp only [push]
  split <;>
    exact Decidable.by_contra fun hn => h _ ((Keyed.find?_eq_none_iff _ _).mpr hn)

end FieldErrors

end RowServe
