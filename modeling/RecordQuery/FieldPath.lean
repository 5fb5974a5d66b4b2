import RecordQuery.Record
import RecordQuery.Rejection

/-!
# Field paths

A path names a field of a record or, behind the names of relations joined by two underscores, a
field of a related record.
-/

namespace RecordQuery

structure FieldPath where
  segments : List String
deriving DecidableEq, Repr

namespace FieldPath

/-- The pieces of a text between pairs of underscores, pairs taken from the left. -/
def splitPairs : List Char → List (List Char)
  | [] => [[]]
  | '_' :: '_' :: rest => [] :: splitPairs rest
  | c :: rest =>
    match splitPairs rest with
    | first :: more => (c :: first) :: more
    | [] => [[c]]

def parse (key : String) : FieldPath := ⟨(splitPairs key.toList).map String.ofList⟩

def text (path : FieldPath) : String := String.intercalate "__" path.segments

def hops (path : FieldPath) : List String := path.segments.dropLast

def leaf (path : FieldPath) : String := path.segments.getLast?.getD ""

/-- The schema of the records at the end of a chain of relations. -/
def follow (schemas : Schemas) : Schema → List String → Except Rejection Schema
  | schema, [] => .ok schema
  | schema, hop :: rest =>
    match schema.field? hop with
    | none => .error (.unknownField schema.name hop)
    | some field =>
      match field.type with
      | .relation target => follow schemas (schemas.related target) rest
      | _ => .error (.notARelation schema.name hop)

/-- The type of the field at the end of the path. -/
def resolve (schemas : Schemas) (schema : Schema) (path : FieldPath) :
    Except Rejection FieldType :=
  if path.segments.isEmpty || path.segments.any String.isEmpty then
    .error (.emptySegment path.text)
  else
    (follow schemas schema path.hops).bind fun reached =>
      match reached.field? path.leaf with
      | some field => .ok field.type
      | none => .error (.unknownField reached.name path.leaf)

/-- The value reached through the first record of each relation. Where the last name is itself a
relation, the key of its first record is the value. -/
def valueAt (record : Record) (leaf : String) : List String → Value
  | [] =>
    match record.value leaf with
    | .missing =>
      match record.related leaf with
      | first :: _ => first.key
      | [] => .missing
    | value => value
  | hop :: rest =>
    match record.related hop with
    | first :: _ => valueAt first leaf rest
    | [] => .missing

def valueOf (path : FieldPath) (record : Record) : Value := valueAt record path.leaf path.hops

end FieldPath

end RecordQuery
