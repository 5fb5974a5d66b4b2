import RecordQuery.Json.Basic
import RecordQuery.Numeric.Decimal
import RecordQuery.Numeric.Shortest
import RecordQuery.Text.Quoted

/-!
# Typed reading of JSON

A value read as a number, a text, a list or a record, with the reason when it is something else.
A record is given as an object, of which unknown entries are passed over, or as an array of its
fields in order. Of several problems the first one met counts: entries in the order in which they
stand, then fields that are missing.
-/

namespace RecordQuery

inductive DecodeError where
  | invalidType (found expected : String)
  | invalidValue (found expected : String)
  | invalidLength (length : Nat) (expected : String)
  | missingField (name : String)
  | duplicateField (name : String)
deriving DecidableEq, Repr

namespace DecodeError

def message : DecodeError → String
  | invalidType found expected => "invalid type: " ++ found ++ ", expected " ++ expected
  | invalidValue found expected => "invalid value: " ++ found ++ ", expected " ++ expected
  | invalidLength length expected =>
    "invalid length " ++ Digits.natText length ++ ", expected " ++ expected
  | missingField name => "missing field `" ++ name ++ "`"
  | duplicateField name => "duplicate field `" ++ name ++ "`"

end DecodeError

namespace Decode

/-- What a value is, for a message: numbers are written as in the data format. -/
def describe : Json → String
  | .null => "null"
  | .bool b => "boolean `" ++ (if b then "true" else "false") ++ "`"
  | .number (.integer n _ _) => "integer `" ++ Digits.intText n ++ "`"
  | .number (.float x) => "floating point `" ++ x.dataText ++ "`"
  | .string s => "string " ++ Text.quoted s
  | .array _ => "sequence"
  | .object _ => "map"

def mismatch {α : Type} (value : Json) (expected : String) : Except DecodeError α :=
  .error (.invalidType (describe value) expected)

def outOfRange {α : Type} (value : Json) (expected : String) : Except DecodeError α :=
  .error (.invalidValue (describe value) expected)

def unsigned (value : Json) : Except DecodeError UInt64 :=
  match value with
  | .number (.integer n _ _) =>
    if 0 ≤ n then .ok (UInt64.ofNat n.toNat) else outOfRange value "u64"
  | _ => mismatch value "u64"

def signed (value : Json) : Except DecodeError Int64 :=
  match value with
  | .number (.integer n _ _) =>
    if n < 0x8000000000000000 then .ok (Int64.ofInt n) else outOfRange value "i64"
  | _ => mismatch value "i64"

def float (value : Json) : Except DecodeError Binary64 :=
  match value with
  | .number (.integer n _ _) => .ok (Binary64.ofInt n)
  | .number (.float x) => .ok (.finite x)
  | _ => mismatch value "f64"

def text (value : Json) : Except DecodeError String :=
  match value with
  | .string s => .ok s
  | _ => mismatch value "a string"

def bool (value : Json) : Except DecodeError Bool :=
  match value with
  | .bool b => .ok b
  | _ => mismatch value "a boolean"

def decimalName : String := "a Decimal type representing a fixed-point number"

def decimal (value : Json) : Except DecodeError Decimal :=
  let read (text : String) : Except DecodeError Decimal :=
    match Decimal.read? text.toList with
    | some d => .ok d
    | none => outOfRange value decimalName
  match value with
  | .string s => read s
  | .number (.integer n _ _) => read (Digits.intText n)
  | .number (.float x) => read (Binary64.finite x).plainText
  | _ => mismatch value decimalName

/-- Nothing for `null`. -/
def optional {α : Type} (read : Json → Except DecodeError α) (value : Json) :
    Except DecodeError (Option α) :=
  if value.isNull then .ok none else (read value).map some

def list {α : Type} (read : Json → Except DecodeError α) (value : Json) :
    Except DecodeError (List α) :=
  match value with
  | .array values => values.mapM read
  | _ => mismatch value "a sequence"

/-! ## Records -/

/-- A field of a record: its name, whether it may be left out, and the check of its value. -/
structure FieldForm where
  name : String
  optional : Bool
  check : Json → Except DecodeError Unit

namespace FieldForm

def required {α : Type} (name : String) (read : Json → Except DecodeError α) : FieldForm :=
  ⟨name, false, fun value => (read value).map fun _ => ()⟩

/-- A field that has a value when it is left out. -/
def defaulted {α : Type} (name : String) (read : Json → Except DecodeError α) : FieldForm :=
  ⟨name, true, fun value => (read value).map fun _ => ()⟩

end FieldForm

/-- The first problem in the entries of an object; `seen` holds the known names met before. -/
def entryProblem? (forms : List FieldForm) (seen : List String) : Entries → Option DecodeError
  | [] => none
  | (key, value) :: rest =>
    match forms.find? fun form => form.name == key with
    | none => entryProblem? forms seen rest
    | some form =>
      if seen.contains key then some (.duplicateField key)
      else
        match form.check value with
        | .error problem => some problem
        | .ok () => entryProblem? forms (key :: seen) rest

def missing? (forms : List FieldForm) (entries : Entries) : Option DecodeError :=
  (forms.find? fun form => !form.optional && (Entries.get? entries form.name).isNone).map
    fun form => .missingField form.name

/-- The values of the fields given in an array, by name, or the first problem; `place` fields come
before these. An array that ends too early is as long as there are fields before the one it lacks,
those with a value of their own among them. -/
def takeValues (expected : String) :
    (forms : List FieldForm) → (values : List Json) → (place : Nat) → Except DecodeError Entries
  | [], [], _ => .ok []
  | [], rest, place => .error (.invalidLength (place + rest.length) "fewer elements in array")
  | form :: forms, [], place =>
    if form.optional then takeValues expected forms [] (place + 1)
    else .error (.invalidLength place expected)
  | form :: forms, value :: rest, place =>
    match form.check value with
    | .error problem => .error problem
    | .ok () =>
      (takeValues expected forms rest (place + 1)).map fun entries => (form.name, value) :: entries

/-- The name of a record with the number of its fields. -/
def lengthName (name : String) (count : Nat) : String :=
  "struct " ++ name ++ " with " ++ Digits.natText count ++
    (if count = 1 then " element" else " elements")

/-- Reads a record by its fields: `build` gets the value under each name. -/
def record {α : Type} (name : String) (forms : List FieldForm)
    (build : (String → Option Json) → Except DecodeError α) (value : Json) :
    Except DecodeError α :=
  match value with
  | .object entries =>
    match (entryProblem? forms [] entries).or (missing? forms entries) with
    | some problem => .error problem
    | none => build (Entries.get? entries)
  | .array values =>
    match takeValues (lengthName name forms.length) forms values 0 with
    | .error problem => .error problem
    | .ok entries => build (Entries.get? entries)
  | _ => mismatch value ("struct " ++ name)

def required {α : Type} (name : String) (read : Json → Except DecodeError α) :
    Option Json → Except DecodeError α
  | some value => read value
  | none => .error (.missingField name)

def orElse {α : Type} (default : α) (read : Json → Except DecodeError α) :
    Option Json → Except DecodeError α
  | some value => read value
  | none => .ok default

end Decode

end RecordQuery
