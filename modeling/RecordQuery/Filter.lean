import RecordQuery.Condition
import RecordQuery.FieldPath

/-!
# Filters

A parameter as a filter: a path and a condition on the field it names, or the reason why there is
none. A filter that follows a relation matches when some related record does.
-/

namespace RecordQuery

inductive Resolution where
  | valid (leaf : FieldType) (condition : Condition)
  | rejected (reason : Rejection)
deriving DecidableEq

structure Filter where
  key : String
  resolution : Resolution
deriving DecidableEq

namespace Filter

def path (filter : Filter) : FieldPath := FieldPath.parse filter.key

variable [RegexLibrary]

/-- Reads the value of a parameter by the type of the field its key names. -/
def resolve (schemas : Schemas) (schema : Schema) (path : FieldPath) (value : String) :
    Except Rejection (FieldType × Condition) :=
  (path.resolve schemas schema).bind fun leaf =>
    if leaf.isRelation then .error (.relationLeaf schema.name path.text)
    else (Condition.classify leaf value).map fun condition => (leaf, condition)

def parse (schemas : Schemas) (schema : Schema) (key value : String) : Filter :=
  match resolve schemas schema (FieldPath.parse key) value with
  | .ok (leaf, condition) => ⟨key, .valid leaf condition⟩
  | .error reason => ⟨key, .rejected reason⟩

def never (key : String) (reason : Rejection) : Filter := ⟨key, .rejected reason⟩

def isValid (filter : Filter) : Bool :=
  match filter.resolution with
  | .valid .. => true
  | .rejected _ => false

def condition? (filter : Filter) : Option Condition :=
  match filter.resolution with
  | .valid _ condition => some condition
  | .rejected _ => none

def leafType? (filter : Filter) : Option FieldType :=
  match filter.resolution with
  | .valid leaf _ => some leaf
  | .rejected _ => none

def rejection? (filter : Filter) : Option Rejection :=
  match filter.resolution with
  | .valid .. => none
  | .rejected reason => some reason

/-- The name under which a storage layer knows the field and the comparison. -/
def lookup? (filter : Filter) : Option String :=
  filter.condition?.map fun condition =>
    filter.path.text ++ "__" ++ condition.operator.lookup condition.isTextual

/-- Some chain of related records leads to a value of which the condition holds. -/
def matchesAlong (condition : Condition) (leaf : String) : List String → Record → Bool
  | [], record => condition.holds (record.value leaf)
  | hop :: rest, record =>
    (record.related hop).any fun related => matchesAlong condition leaf rest related

def isMatch (filter : Filter) (record : Record) : Bool :=
  match filter.resolution with
  | .valid _ condition => matchesAlong condition filter.path.leaf filter.path.hops record
  | .rejected _ => false

/-- The entries with a value, each under its name. -/
def present (entries : List (String × Option Json)) : Entries :=
  entries.filterMap fun (name, value) => value.map fun json => (name, json)

def toJson (filter : Filter) : Json :=
  .object (present [
    ("key", some (.string filter.key)),
    ("path", some (.strings filter.path.segments)),
    ("valid", some (.bool filter.isValid)),
    ("lookup", filter.lookup?.map .string),
    ("token", filter.condition?.map Condition.toJson),
    ("rejection", filter.rejection?.map fun reason => .string reason.message)])

end Filter

end RecordQuery
