import RecordQuery.Event
import RecordQuery.Selection
import RecordQuery.Sorting

/-!
# Reports on what was asked for

The events of reading schemas, filters and orderings: one for each part that could not be used.
-/

namespace RecordQuery

def Schema.buildEvents (name : String) (steps : List Schema.Step) : List Event :=
  steps.filterMap fun step =>
    match step with
    | .field .. => none
    | .typed field typeName =>
      match FieldType.ofTypeName? typeName with
      | some _ => none
      | none => some (.fieldOmitted name field typeName)

variable [RegexLibrary]

def Filter.parseEvents (schemas : Schemas) (schema : Schema) (key value : String) : List Event :=
  match (Filter.parse schemas schema key value).rejection? with
  | some reason => [.filterRejected schema.name key value reason]
  | none => []

def Selection.buildEvents (schemas : Schemas) (schema : Schema) (query : QueryString)
    (reserved : List String) : List Event :=
  (Selection.requested query reserved).flatMap fun pair =>
    Filter.parseEvents schemas schema pair.1 pair.2

def SortKey.resolveEvents (schemas : Schemas) (schema : Schema) (directive : String) :
    List Event :=
  (SortKey.dropped schemas schema directive).map fun (token, reason) =>
    .sortKeyDropped schema.name token reason

end RecordQuery
