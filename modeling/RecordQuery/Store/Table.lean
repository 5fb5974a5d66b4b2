import RecordQuery.Json.Decode
import RecordQuery.Store.Basic
import RecordQuery.Text.Lower

/-!
# Tables

A store that keeps its records in memory, each under a number. Records are written through the
data format: a new record is read from its payload with the number put in, and an update lays the
payload over the record that is there and reads the result back.
-/

namespace RecordQuery

class Storable (R : Type) where
  schemas : Schemas
  schema : Schema
  /-- The record as conditions and orderings see it. -/
  view : R → Record
  encode : R → Json
  decode : Json → Except DecodeError R

structure Table (R : Type) where
  rows : List (UInt64 × R)
  nextId : UInt64
  idField : String
  unique : List String

namespace Rows

variable {R : Type}

def get? (id : UInt64) (rows : List (UInt64 × R)) : Option R := rows.lookup id

/-- Puts a record under a number and keeps the numbers ascending. -/
def insert (id : UInt64) (record : R) : List (UInt64 × R) → List (UInt64 × R)
  | [] => [(id, record)]
  | (i, r) :: rest =>
    if id = i then (id, record) :: rest
    else if id < i then (id, record) :: (i, r) :: rest
    else (i, r) :: insert id record rest

def erase (id : UInt64) (rows : List (UInt64 × R)) : List (UInt64 × R) :=
  rows.filter fun row => row.1 != id

theorem get?_cons (id i : UInt64) (record : R) (rest : List (UInt64 × R)) :
    get? id ((i, record) :: rest) = if id = i then some record else get? id rest := by
  by_cases h : id = i
  · simp [get?, h]
  · simp [get?, List.lookup_cons, beq_eq_false_iff_ne.2 h, h]

/-- Putting a record under a number changes what stands under that number alone. -/
theorem get?_insert (id other : UInt64) (record : R) (rows : List (UInt64 × R)) :
    get? other (insert id record rows) = if other = id then some record else get? other rows := by
  induction rows with
  | nil => exact get?_cons other id record []
  | cons row rest ih =>
    obtain ⟨i, r⟩ := row
    simp only [insert]
    split
    · next h => subst h; grind [get?_cons]
    · split <;> grind [get?_cons]

/-- Erasing a number leaves nothing under it and the rest as it was. -/
theorem get?_erase (id other : UInt64) (rows : List (UInt64 × R)) :
    get? other (erase id rows) = if other = id then none else get? other rows := by
  induction rows with
  | nil => simp [erase, get?]
  | cons row rest ih =>
    obtain ⟨i, r⟩ := row
    by_cases h : i = id
    · subst h
      have : erase i ((i, r) :: rest) = erase i rest := by simp [erase]
      grind [get?_cons]
    · have : erase id ((i, r) :: rest) = (i, r) :: erase id rest := by simp [erase, h]
      grind [get?_cons]

end Rows

namespace Table

variable {R : Type}

def empty : Table R := ⟨[], 1, "id", []⟩

def withIdField (table : Table R) (field : String) : Table R := { table with idField := field }

/-- Declares a field of which no two records may hold the same value. -/
def withUnique (table : Table R) (field : String) : Table R :=
  { table with unique := table.unique ++ [field] }

def records (table : Table R) : List R := table.rows.map Prod.snd

def size (table : Table R) : Nat := table.rows.length

def entriesOf (payload : Json) : Except StoreError Entries :=
  match payload with
  | .object entries => .ok entries
  | _ => .error (.validation (.whole ("Expected an object, got " ++ payload.kindName ++ ".")))

variable [Storable R]

/-! ## Reading -/

/-- The records of a selection, in the order of the keys or else of their numbers. -/
def matching (table : Table R) (selection : Selection) (keys : List SortKey) : List R :=
  sortByKeys keys Storable.view
    (table.records.filter fun record => selection.isMatch (Storable.view record))

def count (table : Table R) (selection : Selection) : Nat :=
  table.records.countP fun record => selection.isMatch (Storable.view record)

def fetch (table : Table R) (selection : Selection) (keys : List SortKey) (window : Window) :
    List R :=
  window.cut (table.matching selection keys)

def find (table : Table R) (id : UInt64) : Option R := Rows.get? id table.rows

/-! ## Writing -/

/-- Some record under another number holds the wanted value in the field. -/
def isTaken (table : Table R) (id : UInt64) (field : String) (wanted : Json) : Bool :=
  table.rows.any fun row =>
    row.1 != id &&
      match (Storable.encode row.2).get? field with
      | some value => value.same wanted
      | none => false

/-- The first unique field whose value in the entries is taken by another record. -/
def conflict? (table : Table R) (id : UInt64) (entries : Entries) : Option String :=
  table.unique.find? fun field =>
    match Entries.get? entries field with
    | some wanted => !wanted.isNull && table.isTaken id field wanted
    | none => false

def conflictDetail (R : Type) [Storable R] (field : String) : String :=
  "UNIQUE constraint failed: " ++ Text.lower (Storable.schema R).name ++ "." ++ field

/-- The record that the entries describe, unless a unique value is taken or they do not describe
one. -/
def materialize (table : Table R) (id : UInt64) (entries : Entries) : Except StoreError R :=
  let entries := Entries.insert table.idField (.number (.ofUInt64 id)) entries
  match table.conflict? id entries with
  | some field => .error (.constraint (conflictDetail R field))
  | none =>
    match Storable.decode (.object entries) with
    | .ok record => .ok record
    | .error problem => .error (.validation (.whole problem.message))

/-- Takes in a record. A positive number of its own that is free is kept; otherwise the next
number is given out, also when the record cannot be read back. -/
def insert (record : R) (table : Table R) : Outcome (Table R) UInt64 :=
  match entriesOf (Storable.encode record) with
  | .error failure => (.error failure, table)
  | .ok entries =>
    let own : Option UInt64 :=
      match Entries.get? entries table.idField with
      | some (.number n) => n.toUInt64?.filter fun id => 0 < id && (table.find id).isNone
      | _ => none
    let (id, nextId) : UInt64 × UInt64 :=
      match own with
      | some id => (id, max table.nextId (id + 1))
      | none => (table.nextId, table.nextId + 1)
    let table := { table with nextId := nextId }
    match Storable.decode
        (.object (Entries.insert table.idField (.number (.ofUInt64 id)) entries)) with
    | .ok record => (.ok id, { table with rows := Rows.insert id record table.rows })
    | .error problem => (.error (.backend problem.message), table)

/-- Takes in records one after the other, until one is refused. -/
def insertAll : List R → Table R → Outcome (Table R) Unit
  | [], table => (.ok (), table)
  | record :: rest, table =>
    match insert record table with
    | (.ok _, table) => insertAll rest table
    | (.error failure, table) => (.error failure, table)

/-- Makes a record of a payload under the next number. -/
def create (payload : Json) (table : Table R) : Outcome (Table R) R :=
  match entriesOf payload with
  | .error failure => (.error failure, table)
  | .ok entries =>
    match table.materialize table.nextId entries with
    | .error failure => (.error failure, table)
    | .ok record =>
      (.ok record, { table with
        rows := Rows.insert table.nextId record table.rows
        nextId := table.nextId + 1 })

/-- Lays a payload over the record under a number. -/
def update (id : UInt64) (payload : Json) (table : Table R) : Outcome (Table R) R :=
  match entriesOf payload with
  | .error failure => (.error failure, table)
  | .ok changes =>
    match table.find id with
    | none => (.error .notFound, table)
    | some current =>
      match entriesOf (Storable.encode current) with
      | .error failure => (.error failure, table)
      | .ok entries =>
        match table.materialize id (Entries.overlay entries changes) with
        | .error failure => (.error failure, table)
        | .ok record => (.ok record, { table with rows := Rows.insert id record table.rows })

def delete (id : UInt64) (table : Table R) : Outcome (Table R) Unit :=
  match table.find id with
  | none => (.error .notFound, table)
  | some _ => (.ok (), { table with rows := Rows.erase id table.rows })

/-! ## As a store -/

/-- A record in the data format, where there is one. -/
def encoded (outcome : Outcome (Table R) R) : Outcome (Table R) Json :=
  (outcome.1.map Storable.encode, outcome.2)

def store (R : Type) [Storable R] : Store (Table R) UInt64 where
  schemas := Storable.schemas R
  schema := Storable.schema R
  parseId? raw := Digits.readUInt64? (Text.trimChars raw.toList)
  count selection table := (.ok (table.count selection), table)
  fetch selection keys window table :=
    (.ok ((table.fetch selection keys window).map Storable.encode), table)
  find id table := (.ok ((table.find id).map Storable.encode), table)
  create payload table := encoded (create payload table)
  update id payload _ table := encoded (update id payload table)
  delete id table := delete id table

end Table

end RecordQuery
