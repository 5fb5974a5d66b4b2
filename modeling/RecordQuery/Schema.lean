import RecordQuery.Numeric.Number

/-!
# Schemas

The fields of each kind of record and their types. A relation carries the key of the schema of the
records it leads to. The key is looked up only when the relation is followed, so schemas may refer
to each other in circles, and it need not be the name of the schema, so schemas of one name may be
told apart.
-/

namespace RecordQuery

inductive FieldType where
  | text
  | integer
  | float
  | decimal
  | datetime
  | boolean
  | relation (key : String)
deriving DecidableEq, Repr

namespace FieldType

def ofTypeName? (name : String) : Option FieldType :=
  if name ∈ ["CharField", "TextField", "SlugField", "EmailField", "URLField", "text",
      "string"] then some text
  else if name ∈ ["IntegerField", "BigIntegerField", "SmallIntegerField",
      "PositiveIntegerField", "PositiveSmallIntegerField", "PositiveBigIntegerField",
      "AutoField", "BigAutoField", "integer", "int"] then some integer
  else if name ∈ ["FloatField", "float"] then some float
  else if name ∈ ["DecimalField", "decimal"] then some decimal
  else if name ∈ ["DateTimeField", "DateField", "TimeField", "datetime", "date"] then
    some datetime
  else if name ∈ ["BooleanField", "NullBooleanField", "boolean", "bool"] then some boolean
  else none

def name : FieldType → String
  | text => "text"
  | integer => "integer"
  | float => "float"
  | decimal => "decimal"
  | datetime => "datetime"
  | boolean => "boolean"
  | relation _ => "relation"

def isRelation : FieldType → Bool
  | relation _ => true
  | _ => false

def isNumeric : FieldType → Bool
  | integer | float | decimal => true
  | _ => false

def isTextual : FieldType → Bool
  | text | datetime => true
  | _ => false

/-- Reads a number of a numeric type; blanks around it do not count. -/
def readNumber? (type : FieldType) (cs : List Char) : Option Number :=
  let cs := Text.trimChars cs
  match type with
  | integer => (Digits.readInt64? cs).map .signed
  | float => (Binary64.read? cs).map .float
  | decimal => (Decimal.read? cs).map .decimal
  | _ => none

end FieldType

structure Field where
  name : String
  type : FieldType
deriving DecidableEq, Repr

structure Schema where
  name : String
  fields : List Field
deriving DecidableEq, Repr

namespace Schema

def field? (schema : Schema) (name : String) : Option Field :=
  schema.fields.find? fun field => field.name == name

/-- Gives the field its place, or the place of an earlier field of the same name. -/
def declareIn (field : Field) : List Field → List Field
  | [] => [field]
  | f :: rest => if f.name = field.name then field :: rest else f :: declareIn field rest

def declare (schema : Schema) (field : Field) : Schema :=
  { schema with fields := declareIn field schema.fields }

theorem find?_declareIn (field : Field) (name : String) (fields : List Field) :
    (declareIn field fields).find? (fun f => f.name == name) =
      if name = field.name then some field else fields.find? fun f => f.name == name := by
  induction fields with
  | nil => simp [declareIn]; grind
  | cons f rest ih =>
    simp only [declareIn]
    split <;> grind

/-- Declaring a field changes what the schema says about its name alone. -/
theorem field?_declare (schema : Schema) (field : Field) (name : String) :
    (schema.declare field).field? name =
      if name = field.name then some field else schema.field? name :=
  find?_declareIn field name schema.fields

inductive Step where
  | field (name : String) (type : FieldType)
  /-- Declares the field if the type name of a host system is known. -/
  | typed (name typeName : String)
deriving DecidableEq, Repr

def Step.field? : Step → Option Field
  | .field name type => some ⟨name, type⟩
  | .typed name typeName => (FieldType.ofTypeName? typeName).map fun type => ⟨name, type⟩

def step (schema : Schema) (s : Step) : Schema :=
  match s.field? with
  | some field => schema.declare field
  | none => schema

def build (name : String) (steps : List Step) : Schema := steps.foldl step ⟨name, []⟩

end Schema

/-- The schemas that relations lead to, each behind its key. -/
structure Schemas where
  related : (key : String) → Schema

/-- The schemas of a list, each behind its name; behind any other key is a schema without fields. -/
def Schemas.ofList (schemas : List Schema) : Schemas where
  related key := (schemas.find? fun schema => schema.name == key).getD ⟨key, []⟩

end RecordQuery
