import RecordQuery.Store.Basic
import RecordQuery.Text.Blank

/-!
# Canned stores

A store with fixed answers, for trying out what lies above it: a list of records that never
changes, ids that are any text, payloads given back as they came, and failures for chosen
operations.
-/

namespace RecordQuery

structure CannedStore where
  schemas : Schemas
  schema : Schema
  records : List Json
  /-- The failure of an operation that is to fail. -/
  failure? : StoreOperation → Option StoreError

namespace CannedStore

/-- The given answer, unless the operation is to fail. -/
def answer {α : Type} (canned : CannedStore) (operation : StoreOperation) (value : α) :
    Unit → Outcome Unit α
  | () =>
    match canned.failure? operation with
    | some failure => (.error failure, ())
    | none => (.ok value, ())

/-- The record whose id is the text. -/
def record? (canned : CannedStore) (id : String) : Option Json :=
  canned.records.find? fun record =>
    match record.get? "id" with
    | some (.string s) => s == id
    | _ => false

def store (canned : CannedStore) : Store Unit String where
  schemas := canned.schemas
  schema := canned.schema
  parseId? raw := some (Text.trim raw)
  count _ := canned.answer .count canned.records.length
  fetch _ _ window := canned.answer .fetch (window.cut canned.records)
  find id := canned.answer .find (canned.record? id)
  create payload := canned.answer .create payload
  update _ payload _ := canned.answer .update payload
  delete _ := canned.answer .delete ()

end CannedStore

end RecordQuery
