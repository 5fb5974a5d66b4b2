import RecordQuery.Json.Basic

/-!
# Field errors

Complaints about the fields of a payload: messages under field names, in the order of the names.
-/

namespace RecordQuery

structure FieldErrors where
  entries : List (String × List String)
deriving DecidableEq, Repr

namespace FieldErrors

/-- The name under which complaints about a payload as a whole are filed. -/
def wholePayload : String := "non_field_errors"

def empty : FieldErrors := ⟨[]⟩

/-- Files a message behind the others of the field. -/
def addTo (field message : String) : List (String × List String) → List (String × List String)
  | [] => [(field, [message])]
  | (f, messages) :: rest =>
    if field = f then (f, messages ++ [message]) :: rest
    else if field < f then (field, [message]) :: (f, messages) :: rest
    else (f, messages) :: addTo field message rest

def add (errors : FieldErrors) (field message : String) : FieldErrors :=
  ⟨addTo field message errors.entries⟩

def whole (message : String) : FieldErrors := empty.add wholePayload message

def get? (errors : FieldErrors) (field : String) : Option (List String) :=
  errors.entries.lookup field

def isEmpty (errors : FieldErrors) : Bool := errors.entries.isEmpty

def text (errors : FieldErrors) : String :=
  String.intercalate "; "
    (errors.entries.map fun entry => entry.1 ++ ": " ++ String.intercalate " " entry.2)

def toJson (errors : FieldErrors) : Json :=
  .object (errors.entries.map fun entry => (entry.1, .strings entry.2))

end FieldErrors

end RecordQuery
