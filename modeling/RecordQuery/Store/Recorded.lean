import RecordQuery.Store.Basic

/-!
# Recorded stores

A store that keeps a list of the operations it was asked for.
-/

namespace RecordQuery

inductive Call where
  | count
  | fetch (window : Window)
  | find (id : String)
  | create (payload : Json)
  | update (id : String) (payload : Json) (partially : Bool)
  | delete (id : String)

namespace Call

def toJson : Call → Json
  | count => .array [.string "count"]
  | fetch window =>
    .array [.string "fetch", .ofNat window.offset, .ofOption (window.limit.map .ofNat)]
  | find id => .array [.string "get", .string id]
  | create payload => .array [.string "create", payload]
  | update id payload partially =>
    .array [.string "update", .string id, payload, .bool partially]
  | delete id => .array [.string "delete", .string id]

end Call

namespace Store

variable {σ ι α : Type}

def record (call : Call) (run : σ → Outcome σ α) :
    σ × List Call → Outcome (σ × List Call) α
  | (state, calls) =>
    let (answer, state) := run state
    (answer, state, calls ++ [call])

def recorded (store : Store σ ι) (idText : ι → String) : Store (σ × List Call) ι where
  schemas := store.schemas
  schema := store.schema
  parseId? := store.parseId?
  count selection := record .count (store.count selection)
  fetch selection keys window := record (.fetch window) (store.fetch selection keys window)
  find id := record (.find (idText id)) (store.find id)
  create payload := record (.create payload) (store.create payload)
  update id payload partially :=
    record (.update (idText id) payload partially) (store.update id payload partially)
  delete id := record (.delete (idText id)) (store.delete id)

end Store

end RecordQuery
