import RecordQuery.FieldErrors
import RecordQuery.Json.Print
import RecordQuery.Rejection

/-!
# Events

What the program reports while it works: for each event a level, a message and named details. The
events are part of the answer of every operation that causes them.
-/

namespace RecordQuery

inductive Operation where
  | list
  | retrieve
  | create
  | update
  | partialUpdate
  | destroy
deriving DecidableEq, Repr

def Operation.name : Operation → String
  | list => "list"
  | retrieve => "retrieve"
  | create => "create"
  | update => "update"
  | partialUpdate => "partial_update"
  | destroy => "destroy"

inductive Event where
  | filterRejected (record key value : String) (reason : Rejection)
  | sortKeyDropped (record token : String) (reason : Rejection)
  | fieldOmitted (record field typeName : String)
  | storageSkipped (record : String) (rejected : Nat)
  | keyMissing (record : String) (operation : Operation)
  | notFound (record : String) (operation : Operation) (key : String)
  | validationFailed (record : String) (operation : Operation) (key : String)
    (errors : FieldErrors)
  | constraintViolated (record : String) (operation : Operation) (key detail : String)
  | storageFailed (record : String) (operation : Operation) (key failure : String)
  | created (record : String) (id : Json)
  | updated (record key : String) (partially : Bool)
  | deleted (record key : String)
  | snapshotSaved (path : String) (items : Nat)

inductive Level where
  | debug
  | info
  | warn
  | error
deriving DecidableEq, Repr

def Level.name : Level → String
  | debug => "DEBUG"
  | info => "INFO"
  | warn => "WARN"
  | error => "ERROR"

namespace Event

def level : Event → Level
  | filterRejected .. | sortKeyDropped .. | fieldOmitted .. | storageSkipped ..
  | snapshotSaved .. => .debug
  | created .. | updated .. | deleted .. => .info
  | keyMissing .. | notFound .. | validationFailed .. => .warn
  | constraintViolated .. | storageFailed .. => .error

def message : Event → String
  | filterRejected .. => "filter parameter matches nothing"
  | sortKeyDropped .. => "ordering term dropped"
  | fieldOmitted .. => "omitting field with unsupported type"
  | storageSkipped .. => "filter matches nothing; skipping storage"
  | keyMissing .. => "request missing pk"
  | notFound .. => "not found"
  | validationFailed .. => "validation failed"
  | constraintViolated .. => "database constraint violation"
  | storageFailed .. => "storage failure"
  | created .. => "created"
  | updated .. => "updated"
  | deleted .. => "deleted"
  | snapshotSaved .. => "snapshot saved"

/-- The details that every failed operation reports. -/
def failureDetails (record : String) (operation : Operation) (key : String) :
    List (String × String) :=
  [("record", record), ("op", operation.name), ("pk", key)]

def details : Event → List (String × String)
  | filterRejected record key value reason =>
    [("record", record), ("key", key), ("value", value), ("reason", reason.message)]
  | sortKeyDropped record token reason =>
    [("record", record), ("token", token), ("reason", reason.message)]
  | fieldOmitted record field typeName =>
    [("record", record), ("field", field), ("type_name", typeName)]
  | storageSkipped record rejected =>
    [("record", record), ("rejected", Digits.natText rejected)]
  | keyMissing record operation => [("record", record), ("op", operation.name)]
  | notFound record operation key => failureDetails record operation key
  | validationFailed record operation key errors =>
    failureDetails record operation key ++ [("errors", errors.text)]
  | constraintViolated record operation key detail =>
    failureDetails record operation key ++ [("detail", detail)]
  | storageFailed record operation key failure =>
    failureDetails record operation key ++ [("error", failure)]
  | created record id => [("record", record), ("id", id.compact)]
  | updated record key partially =>
    [("record", record), ("pk", key), ("partial", if partially then "true" else "false")]
  | deleted record key => [("record", record), ("pk", key)]
  | snapshotSaved path items => [("path", path), ("items", Digits.natText items)]

def toJson (event : Event) : Json :=
  .object [
    ("level", .string event.level.name),
    ("message", .string event.message),
    ("fields", .ofEntries (event.details.map fun detail => (detail.1, .string detail.2)))]

end Event

end RecordQuery
