import RowServe.Contract.Convert
import RowServe.Contract.Rule

/-!
# Validation

An object is checked field by field. The result holds the messages and, whether or not
there are any, the fields that did validate.

Results:

* `accepted_iff`: an object is accepted exactly if it has no errors.
-/

namespace RowServe

/-- What validation finds: the errors, and the fields in order. -/
structure Validation where
  errors : FieldErrors
  valid : Object

namespace Validation

/-- Nothing is checked yet. -/
def start : Validation := ⟨FieldErrors.empty, []⟩

/-- Is there no error? -/
def isOk (v : Validation) : Bool := v.errors.isEmpty

/-- The valid object, or the errors. -/
def toExcept (v : Validation) : Except FieldErrors Object :=
  if v.isOk then .ok v.valid else .error v.errors

/-- Adds a message for a field. -/
def push (v : Validation) (field message : String) : Validation :=
  { v with errors := v.errors.push field message }

/-- Adds the result for a field. -/
def record (v : Validation) (field : String) : Except FieldError Json → Validation
  | .ok value => { v with valid := v.valid.insert field value }
  | .error e => { v with errors := v.errors.add field e }

/-- The result for an object that is the value of a field. -/
def asFieldResult (v : Validation) : Except FieldError Json :=
  if v.isOk then .ok (.obj v.valid) else .error (.nested v.errors)

theorem accepted_iff (v : Validation) : (∃ m, v.toExcept = .ok m) ↔ v.errors = [] := by
  simp only [toExcept, isOk, List.isEmpty_iff]
  split <;> simp_all

end Validation

namespace Contract

/-- The message for a key that is no field. -/
def unknownMessage : String := "Unknown field."

/-- The message for a required field that is absent. -/
def requiredMessage : String := "Missing data for required field."

/-- The message for null where it is not allowed. -/
def nullMessage : String := "Field may not be null."

/-- Refuses the keys that are no fields. -/
def refuseUnknown (names : List String) (input : Object) : Validation :=
  input.keys.foldl (fun v k => if names.contains k then v else v.push k unknownMessage)
    Validation.start

/-- A converted value that also obeys the rule of its field. -/
def obeying (s : FieldSpec) (v : Except FieldError Json) : Except FieldError Json :=
  match v with
  | .error e => .error e
  | .ok v =>
    match s.rule.violations s.pattern v with
    | [] => .ok v
    | messages => .error (.messages messages)

/-- A value of the declared type of its field. -/
def checkPlain (s : FieldSpec) (raw : Json) : Except FieldError Json :=
  obeying s (Convert.convert s.valueType s.items raw)

/-- An array of keys, or a single key where that is accepted. -/
def checkLinks (s : FieldSpec) (acceptScalar : Bool) (raw : Json) : Except FieldError Json :=
  let item := s.items.getD .integer
  obeying s <|
    match raw with
    | .arr items => Convert.convert .list (some item) (.arr items)
    | raw =>
      if acceptScalar then Convert.convert item none raw
      else .error (Convert.refuse "Not a valid list.")

mutual

/-- The value of a field that is present and not null. -/
def checkValue (s : FieldSpec) (shape : Shape) (raw : Json) : Except FieldError Json :=
  match shape with
  | .plain | .link => checkPlain s raw
  | .links acceptScalar => checkLinks s acceptScalar raw
  | .lookup complete fields =>
    match raw with
    | .obj input =>
      (checkFields complete input (refuseUnknown (fields.map (·.1.name)) input)
        fields).asFieldResult
    | raw => checkPlain s raw
  | .nested complete fields =>
    match raw with
    | .obj input =>
      (checkFields complete input (refuseUnknown (fields.map (·.1.name)) input)
        fields).asFieldResult
    | _ => .error (Convert.refuse "Not a valid mapping type.")

/-- Checks the fields one after the other. -/
def checkFields (complete : Bool) (input : Object) (v : Validation) :
    List (FieldSpec × Shape) → Validation
  | [] => v
  | (s, shape) :: rest =>
    let v :=
      match input.find? s.name with
      | some .null =>
        if s.allowNone then v.record s.name (.ok .null) else v.push s.name nullMessage
      | some raw => v.record s.name (checkValue s shape raw)
      | none =>
        if complete then
          match s.missing with
          | some default => v.record s.name (.ok default)
          | none => if s.required then v.push s.name requiredMessage else v
        else v
    checkFields complete input v rest

end

/-- Checks an object. -/
def check (c : Contract) (input : Object) : Validation :=
  checkFields c.complete input (refuseUnknown c.names input) c.fields

/-- The cleaned object, or the errors. -/
def validate (c : Contract) (input : Object) : Except FieldErrors Object :=
  (c.check input).toExcept

end Contract

end RowServe
