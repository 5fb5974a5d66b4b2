import RecordQuery.FieldErrors
import RecordQuery.Selection
import RecordQuery.Sorting

/-!
# Stores

What a collection of records can be asked to do. Every operation is a function from a state to
an answer and the state afterwards, whether it succeeds or fails.
-/

namespace RecordQuery

inductive StoreError where
  | notFound
  | validation (errors : FieldErrors)
  | constraint (detail : String)
  /-- The storage itself failed. -/
  | backend (message : String)
deriving DecidableEq, Repr

def StoreError.message : StoreError → String
  | notFound => "record not found"
  | validation errors => "validation failed: " ++ errors.text
  | constraint detail => "constraint violation: " ++ detail
  | backend message => message

inductive StoreOperation where
  | count
  | fetch
  | find
  | create
  | update
  | delete
deriving DecidableEq, Repr

structure Window where
  offset : Nat
  limit : Option Nat
deriving DecidableEq, Repr

namespace Window

def all : Window := ⟨0, none⟩

def cut {α : Type} (window : Window) (xs : List α) : List α :=
  match window.limit with
  | some limit => (xs.drop window.offset).take limit
  | none => xs.drop window.offset

end Window

abbrev Outcome (σ α : Type) := Except StoreError α × σ

/-- A store with states `σ` and ids `ι`. Records are given and taken in the data format. -/
structure Store (σ ι : Type) where
  schemas : Schemas
  schema : Schema
  parseId? : String → Option ι
  count : Selection → σ → Outcome σ Nat
  fetch : Selection → List SortKey → Window → σ → Outcome σ (List Json)
  find : ι → σ → Outcome σ (Option Json)
  create : Json → σ → Outcome σ Json
  update : ι → Json → (partially : Bool) → σ → Outcome σ Json
  delete : ι → σ → Outcome σ Unit

namespace Store

variable {σ ι : Type}

/-- Finds a record that has to be there. -/
def resolve (store : Store σ ι) (id : ι) (state : σ) : Outcome σ Json :=
  match store.find id state with
  | (.ok (some record), state) => (.ok record, state)
  | (.ok none, state) => (.error .notFound, state)
  | (.error failure, state) => (.error failure, state)

end Store

end RecordQuery
