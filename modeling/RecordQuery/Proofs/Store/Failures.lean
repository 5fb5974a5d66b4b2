import RecordQuery.Proofs.Store.Numbering
import RecordQuery.Sample.Gadget

/-!
# Calls that fail

A call that fails leaves the records as they are. It leaves the counter as well, and with it the
number of the record that is created next, unless it puts in a record as it is: the number of such
a record is taken from the counter before the record is read back, and is gone when that fails.
-/

namespace RecordQuery.Table

def failureIn? {α : Type} : Except StoreError α → Option StoreError
  | .ok _ => none
  | .error failure => some failure

theorem max_ne_left_iff {a b : UInt64} : max a b ≠ a ↔ a < b := by
  change (if a ≤ b then b else a) ≠ a ↔ a < b
  split
  · rename_i hle
    exact ⟨fun hne => UInt64.lt_of_le_of_ne hle hne.symm, fun hlt => (UInt64.ne_of_lt hlt).symm⟩
  · rename_i hnot
    exact ⟨fun hne => absurd rfl hne, fun hlt => absurd (UInt64.le_of_lt hlt) hnot⟩

variable {R : Type} [Storable R]

namespace Call

def failure? (table : Table R) : Call R → Option StoreError
  | insert record => failureIn? (Table.insert record table).1
  | create payload => failureIn? (Table.create payload table).1
  | update id payload => failureIn? (Table.update id payload table).1
  | delete id => failureIn? (Table.delete id table).1

/-- The counter that a failing call leaves. -/
def counterLeft (table : Table R) : Call R → UInt64
  | insert record =>
    match Storable.encode record with
    | .object _ => table.counterAfter record
    | _ => table.nextId
  | create _ | update _ _ | delete _ => table.nextId

/-- The call puts in a record as it is, and the counter stands at the number of the record or
below it. -/
def MovesCounter (table : Table R) : Call R → Prop
  | insert record =>
    (∃ entries, Storable.encode record = .object entries) ∧
      ∀ own, table.ownNumber? record = some own → table.nextId < own + 1
  | create _ | update _ _ | delete _ => False

section Counter

variable {table : Table R} {record : R}

theorem counterAfter_ne_iff : table.counterAfter record ≠ table.nextId ↔
    ∀ own, table.ownNumber? record = some own → table.nextId < own + 1 := by
  unfold counterAfter
  cases table.ownNumber? record with
  | none =>
    constructor
    · intro _ own heq
      exact nomatch heq
    · intro _ heq
      exact absurd (UInt64.add_eq_left.mp heq) (by decide)
  | some number =>
    simp only [Option.some.injEq, forall_eq']
    exact max_ne_left_iff

theorem counterLeft_of_object {entries : Entries}
    (h : Storable.encode record = .object entries) :
    counterLeft table (.insert record) = table.counterAfter record := by
  simp only [counterLeft, h]

theorem counterLeft_of_not_object
    (h : ∀ entries, Storable.encode record ≠ .object entries) :
    counterLeft table (.insert record) = table.nextId := by
  unfold counterLeft
  dsimp only
  split
  · rename_i entries heq
    exact absurd heq (h entries)
  · rfl

theorem counterLeft_ne_iff {call : Call R} :
    counterLeft table call ≠ table.nextId ↔ MovesCounter table call := by
  cases call with
  | insert record =>
    by_cases hobject : ∃ entries, Storable.encode record = .object entries
    · obtain ⟨entries, hentries⟩ := hobject
      rw [counterLeft_of_object hentries, counterAfter_ne_iff]
      exact ⟨fun h => ⟨⟨entries, hentries⟩, h⟩, And.right⟩
    · rw [counterLeft_of_not_object (not_exists.mp hobject)]
      exact ⟨fun h => absurd rfl h, fun h => absurd h.1 hobject⟩
  | create | update | delete => exact ⟨fun h => absurd rfl h, False.elim⟩

end Counter

/-- What a failed call leaves: the table, but for the counter behind a record that was put in. -/
theorem run_of_failure {table : Table R} {call : Call R} {failure : StoreError}
    (h : failure? table call = some failure) :
    run table call = { table with nextId := counterLeft table call } := by
  cases call with
  | insert record =>
    rcases insert_cases record table with ⟨_, hentries, heq⟩ | ⟨_, entries, hobject, heq⟩ |
      ⟨entries, stored, _, _, heq⟩
    · have hnone : ∀ entries, Storable.encode record ≠ .object entries := by
        intro entries hobject
        rw [entriesOf_eq_ok_iff.mpr hobject] at hentries
        cases hentries
      rw [run, heq, counterLeft_of_not_object hnone]
    · rw [run, heq, counterLeft_of_object hobject]
    · rw [failure?, heq] at h
      cases h
  | create payload =>
    rcases create_cases payload table with ⟨_, _, heq⟩ | ⟨_, _, _, _, heq⟩
    · rw [run, heq]
      rfl
    · rw [failure?, heq] at h
      cases h
  | update id payload =>
    rcases update_cases id payload table with ⟨_, _, heq⟩ | ⟨_, _, _, _, _, _, _, _, heq⟩
    · rw [run, heq]
      rfl
    · rw [failure?, heq] at h
      cases h
  | delete id =>
    rcases delete_cases id table with ⟨_, heq⟩ | ⟨_, _, heq⟩
    · rw [run, heq]
      rfl
    · rw [failure?, heq] at h
      cases h

end Call

open Table.Call

/-- A call that fails changes no record. The counter stays as well, so that the whole table is as it
was, unless a record was put in that the counter has to be moved for; the number of that record is
then used up, and the record created next stands under the one that the counter was moved to. -/
theorem failed_call_leaves_table {table : Table R} {call : Call R} {failure : StoreError}
    (h : failure? table call = some failure) :
    (run table call).rows = table.rows ∧
    (run table call = table ↔ ¬ MovesCounter table call) ∧
    ∀ payload record, (Table.create payload (run table call)).1 = .ok record →
      (Table.create payload (run table call)).2.find (counterLeft table call) = some record := by
  have hrun := run_of_failure h
  refine ⟨by rw [hrun], ?_, ?_⟩
  · have hsame : run table call = table ↔ counterLeft table call = table.nextId := by
      constructor
      · intro heq
        exact congrArg nextId (hrun.symm.trans heq)
      · intro heq
        rw [hrun, heq]
    rw [hsame, ← counterLeft_ne_iff, not_ne_iff]
  · intro payload record hmade
    have hcounter : (run table call).nextId = counterLeft table call := congrArg nextId hrun
    rw [← hcounter]
    exact find_create hmade

/-- An item whose price is no number is written without one and cannot be read back. It is not put
in, and yet the item created next gets the number 2. -/
theorem failed_call_leaves_table_of_unpriced_item :
    let start : Table Catalog.Item := declared "id" ["sku"]
    let call : Call Catalog.Item := .insert { Catalog.sparePart 0 "A-1" with price := .nan }
    let made := Table.create (Catalog.sparePayload "A-2") (run start call)
    failure? start call = some (.backend "invalid type: null, expected f64") ∧
      (run start call).rows = [] ∧ MovesCounter start call ∧ run start call ≠ start ∧
      made.1 = .ok (Catalog.sparePart 2 "A-2") ∧
      made.2.find 2 = some (Catalog.sparePart 2 "A-2") := by
  intro start call made
  have hfails : failure? start call = some (.backend "invalid type: null, expected f64") := by
    decide
  have hmade : made.1 = .ok (Catalog.sparePart 2 "A-2") := by decide +kernel
  have hleft : counterLeft start call = 2 := by decide
  have hmoves : MovesCounter start call := by
    rw [← counterLeft_ne_iff, hleft]
    decide
  obtain ⟨hrows, hsame, hnext⟩ := failed_call_leaves_table hfails
  refine ⟨hfails, hrows, hmoves, ?_, hmade, ?_⟩
  · intro heq
    exact hsame.mp heq hmoves
  · rw [← hleft]
    exact hnext _ _ hmade

/-- The gadgets are numbered by their count, which has 63 bits. When these are used up a gadget is
refused for its number, and the counter has moved all the same. -/
theorem refused_gadget_moves_counter :
    let gadget (name : String) (count : Int64) : Sample.Gadget :=
      ⟨0, name, count, none, none, none, none, none, []⟩
    let start := run (declared "count" []) (.insert (gadget "a" 0x7FFFFFFFFFFFFFFF))
    let call : Call Sample.Gadget := .insert (gadget "b" 0)
    failure? start call =
        some (.backend "invalid value: integer `9223372036854775808`, expected i64") ∧
      start.nextId = 0x8000000000000000 ∧ (run start call).nextId = 0x8000000000000001 := by
  decide

end RecordQuery.Table
