import RecordQuery.Filter
import RecordQuery.QueryString

/-!
# Selections

The filters of a request. A record is selected when every filter matches it, so one filter that
was rejected leaves nothing to select.
-/

namespace RecordQuery

structure Selection where
  filters : List Filter
deriving DecidableEq

namespace Selection

def empty : Selection := ⟨[]⟩

/-- The parameters that name no filter unless told otherwise. -/
def defaultReserved : List String := ["page", "page_size", "ordering", "format"]

/-- The parameters that become filters: the last value of each key that is neither reserved nor
empty, in the order in which the keys first appear. -/
def requested (query : QueryString) (reserved : List String) : List (String × String) :=
  query.lastValues.filter fun pair => !reserved.contains pair.1 && !pair.2.isEmpty

def build [RegexLibrary] (schemas : Schemas) (schema : Schema) (query : QueryString)
    (reserved : List String) : Selection :=
  ⟨(requested query reserved).map fun pair => Filter.parse schemas schema pair.1 pair.2⟩

def and (a b : Selection) : Selection := ⟨a.filters ++ b.filters⟩

def push (selection : Selection) (filter : Filter) : Selection :=
  ⟨selection.filters ++ [filter]⟩

/-- No filter was rejected. -/
def isSatisfiable (selection : Selection) : Bool := selection.filters.all Filter.isValid

def rejections (selection : Selection) : List (String × Rejection) :=
  selection.filters.filterMap fun filter => filter.rejection?.map fun reason =>
    (filter.key, reason)

def isMatch (selection : Selection) (record : Record) : Bool :=
  selection.filters.all fun filter => filter.isMatch record

def select (selection : Selection) (records : List Record) : List Record :=
  if selection.isSatisfiable then records.filter selection.isMatch else []

def count (selection : Selection) (records : List Record) : Nat :=
  if selection.isSatisfiable then records.countP selection.isMatch else 0

def toJson (selection : Selection) : Json := .array (selection.filters.map Filter.toJson)

end Selection

end RecordQuery
