import RecordQuery.Value

/-!
# Records

A record as conditions and orderings see it: values under field names, lists of related records
under the names of relations, and a key.
-/

namespace RecordQuery

/-- A tree of records. Without a key of its own, a record is known by its field `id`. -/
inductive Record where
  | node (fields : List (String × Value)) (related : List (String × List Record))
    (key : Option Value)
deriving Inhabited

namespace Record

def value : Record → String → Value
  | node fields _ _, name => (fields.lookup name).getD .missing

def related : Record → String → List Record
  | node _ related _, name => (related.lookup name).getD []

def key : Record → Value
  | node fields _ key => key.getD ((fields.lookup "id").getD .missing)

end Record

end RecordQuery
