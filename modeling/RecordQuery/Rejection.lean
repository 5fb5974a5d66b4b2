import RecordQuery.Schema

/-!
# Rejections

Why a parameter cannot become a filter. A rejected parameter is kept with its reason and matches
no record.
-/

namespace RecordQuery

inductive Rejection where
  /-- A segment names no field of the record reached. -/
  | unknownField (record segment : String)
  /-- A segment before the last names a field that leads nowhere. -/
  | notARelation (record segment : String)
  /-- The path ends at a relation. -/
  | relationLeaf (record segment : String)
  | emptySegment (key : String)
  | malformedValue (value : String) (expected : FieldType)
  /-- A wildcard pattern cannot be used, for the reason given. -/
  | pattern (reason : String)
deriving DecidableEq, Repr

def Rejection.message : Rejection → String
  | unknownField record segment => "field '" ++ segment ++ "' does not exist on " ++ record
  | notARelation record segment =>
    "field '" ++ segment ++ "' on " ++ record ++ " is not a relation and cannot be traversed"
  | relationLeaf record segment =>
    "field '" ++ segment ++ "' on " ++ record ++
      " is a relation; name a field of the related record"
  | emptySegment key => "empty field path segment in '" ++ key ++ "'"
  | malformedValue value expected =>
    "value '" ++ value ++ "' is not a valid " ++ expected.name ++ " operand"
  | pattern reason => "invalid wildcard pattern: " ++ reason

end RecordQuery
