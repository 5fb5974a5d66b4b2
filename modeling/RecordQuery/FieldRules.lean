import RecordQuery.Condition
import RecordQuery.FieldErrors
import RecordQuery.Json.Print

/-!
# Field rules

Validation of a payload by the fields of a schema: which fields have to be there, which are not
taken from a payload, and which may be null. Each field is checked on its own. The clean payload
holds the fields that were checked and nothing else.
-/

namespace RecordQuery

/-- Checks a payload; a partial payload may leave fields out. -/
abbrev Validator := (payload : Json) → (partially : Bool) → Except FieldErrors Json

structure FieldRules where
  schema : Schema
  required : List String
  readOnly : List String
  nullable : List String

namespace FieldRules

/-! ## Checking one field -/

def checkText (required : Bool) (value : Json) : Except String Json :=
  match value with
  | .string s =>
    if Text.isBlankText s && required then .error "This field may not be blank." else .ok value
  | .number n => .ok (.string n.text)
  | _ => .error "Not a valid string."

def checkInteger (value : Json) : Except String Json :=
  match value with
  | .number (.integer ..) => .ok value
  | .string s =>
    match Digits.readInt64? (Text.trimChars s.toList) with
    | some n => .ok (.number (.ofInt64 n))
    | none => .error "A valid integer is required."
  | _ => .error "A valid integer is required."

def checkFloat (value : Json) : Except String Json :=
  match value with
  | .number _ => .ok value
  | .string s =>
    match Binary64.read? (Text.trimChars s.toList) with
    | some (.finite x) => .ok (.number (.float x))
    | _ => .error "A valid number is required."
  | _ => .error "A valid number is required."

def checkDecimal (value : Json) : Except String Json :=
  match value with
  | .number _ => .ok value
  | .string s =>
    if (Decimal.read? (Text.trimChars s.toList)).isSome then .ok (.string (Text.trim s))
    else .error "A valid number is required."
  | _ => .error "A valid number is required."

def checkDatetime (value : Json) : Except String Json :=
  match value with
  | .string s => if Text.isBlankText s then .error "Datetime has wrong format." else .ok value
  | _ => .error "Datetime has wrong format."

def checkBoolean (value : Json) : Except String Json :=
  match value with
  | .bool _ => .ok value
  | .number (.integer n _ _) =>
    if n = 1 then .ok (.bool true)
    else if n = 0 then .ok (.bool false)
    else .error "Must be a valid boolean."
  | .string s =>
    match Condition.readBool? s with
    | some b => .ok (.bool b)
    | none => .error "Must be a valid boolean."
  | _ => .error "Must be a valid boolean."

def checkRelation (value : Json) : Except String Json :=
  match value with
  | .number (.integer ..) => .ok value
  | .string s =>
    if Text.isBlankText s then .error "Incorrect type. Expected pk value." else .ok value
  | .object _ => .ok value
  | _ => .error "Incorrect type. Expected pk value."

/-- The clean value of a field that a payload holds, or the complaint about it. -/
def check (rules : FieldRules) (field : Field) (value : Json) : Except String Json :=
  if value.isNull then
    if rules.nullable.contains field.name then .ok .null
    else .error "This field may not be null."
  else
    match field.type with
    | .text => checkText (rules.required.contains field.name) value
    | .integer => checkInteger value
    | .float => checkFloat value
    | .decimal => checkDecimal value
    | .datetime => checkDatetime value
    | .boolean => checkBoolean value
    | .relation _ => checkRelation value

/-! ## Checking a payload -/

/-- What becomes of a field of the schema: nothing, a clean value or a complaint. -/
def checkField (rules : FieldRules) (payload : Entries) (partially : Bool) (field : Field) :
    Option (Except String Json) :=
  if rules.readOnly.contains field.name then none
  else
    match Entries.get? payload field.name with
    | some value => some (rules.check field value)
    | none =>
      if !partially && rules.required.contains field.name then
        some (.error "This field is required.")
      else none

def errors (rules : FieldRules) (payload : Entries) (partially : Bool) : FieldErrors :=
  rules.schema.fields.foldl
    (fun errors field =>
      match rules.checkField payload partially field with
      | some (.error message) => errors.add field.name message
      | _ => errors)
    .empty

def clean (rules : FieldRules) (payload : Entries) (partially : Bool) : Entries :=
  rules.schema.fields.foldl
    (fun clean field =>
      match rules.checkField payload partially field with
      | some (.ok value) => Entries.insert field.name value clean
      | _ => clean)
    []

def validate (rules : FieldRules) : Validator := fun payload partially =>
  match payload with
  | .object entries =>
    let errors := rules.errors entries partially
    if errors.isEmpty then .ok (.object (rules.clean entries partially)) else .error errors
  | _ =>
    .error (.whole
      ("Invalid data. Expected a dictionary, but got " ++ payload.kindName ++ "."))

end FieldRules

namespace Validator

def acceptAll : Validator := fun payload _ => .ok payload

def rejectAll (errors : FieldErrors) : Validator := fun _ _ => .error errors

end Validator

end RecordQuery
