import RecordQuery.Proofs.Store.Table

/-!
# Calls that change a table

What each operation on a table can do, failures included, and tables after a list of calls. A
failed call leaves the table as it is, but for a record that is put in as it is and cannot be read
back: its number is used up.
-/

namespace RecordQuery

/-- A call that may change a table. -/
inductive Table.Call (R : Type) where
  | insert (record : R)
  | create (payload : Json)
  | update (id : UInt64) (payload : Json)
  | delete (id : UInt64)

/-- The storage failed, and not the payload. -/
def StoreError.isFault : StoreError → Bool
  | .backend _ => true
  | _ => false

namespace Table

variable {R : Type}

theorem delete_cases (id : UInt64) (table : Table R) :
    (table.find id = none ∧ delete id table = (.error .notFound, table)) ∨
    ∃ record, table.find id = some record ∧
      delete id table = (.ok (), { table with rows := Rows.erase id table.rows }) := by
  unfold delete
  split
  · rename_i hfind
    exact Or.inl ⟨hfind, rfl⟩
  · rename_i record hfind
    exact Or.inr ⟨record, hfind, rfl⟩

/-- A record that is reported stands under the number; a failure leaves the table as it was. -/
def Reports (before : Table R) (number : UInt64) : Outcome (Table R) R → Prop
  | (.ok record, after) => after.find number = some record
  | (.error _, after) => after = before

theorem Reports.find {before : Table R} {number : UInt64} {outcome : Outcome (Table R) R}
    (h : Reports before number outcome) {record : R} (hok : outcome.1 = .ok record) :
    outcome.2.find number = some record := by
  obtain ⟨result, after⟩ := outcome
  obtain rfl : result = .ok record := hok
  exact h

variable [Storable R]

/-- A record that is read with a number in the field is written with that number in it. -/
def CarriesNumber (R : Type) [Storable R] (field : String) : Prop :=
  ∀ (entries : Entries) (number : UInt64) (record : R),
    Storable.decode (.object (Entries.insert field (.number (.ofUInt64 number)) entries)) =
      .ok record →
    (Storable.encode record).get? field = some (.number (.ofUInt64 number))

/-! ## What each operation can do -/

def stamped (table : Table R) (id : UInt64) (entries : Entries) : Entries :=
  Entries.insert table.idField (.number (.ofUInt64 id)) entries

theorem materialize_eq_ok_iff {table : Table R} {id : UInt64} {entries : Entries} {record : R} :
    table.materialize id entries = .ok record ↔
      table.conflict? id (table.stamped id entries) = none ∧
      Storable.decode (.object (table.stamped id entries)) = .ok record := by
  unfold materialize stamped
  dsimp only
  split
  · rename_i field hconflict
    simp [hconflict]
  · rename_i hconflict
    split
    · rename_i r hread
      simp [hconflict, hread]
    · rename_i problem hread
      simp [hconflict, hread]

theorem materialize_constraint_iff {table : Table R} {id : UInt64} {entries : Entries} :
    (∃ detail, table.materialize id entries = .error (.constraint detail)) ↔
      table.conflict? id (table.stamped id entries) ≠ none := by
  unfold materialize stamped
  dsimp only
  split
  · rename_i field hconflict
    rw [hconflict]
    exact ⟨fun _ => by simp, fun _ => ⟨_, rfl⟩⟩
  · rename_i hconflict
    rw [hconflict]
    refine ⟨fun ⟨detail, h⟩ => ?_, fun h => absurd rfl h⟩
    split at h <;> exact nomatch h

theorem isFault_of_materialize {table : Table R} {id : UInt64} {entries : Entries}
    {failure : StoreError} (h : table.materialize id entries = .error failure) :
    failure.isFault = false := by
  unfold materialize at h
  dsimp only at h
  split at h
  · obtain rfl := Except.error.inj h
    rfl
  · split at h
    · exact absurd h (by simp)
    · obtain rfl := Except.error.inj h
      rfl

theorem isFault_of_entriesOf {payload : Json} {failure : StoreError}
    (h : entriesOf payload = .error failure) : failure.isFault = false := by
  unfold entriesOf at h
  split at h
  · exact absurd h (by simp)
  · obtain rfl := Except.error.inj h
    rfl

/-- The number that a record brings with it, if it is positive and free. -/
def ownNumber? (table : Table R) (record : R) : Option UInt64 :=
  match (Storable.encode record).get? table.idField with
  | some (.number n) => n.toUInt64?.filter fun id => 0 < id && (table.find id).isNone
  | _ => none

/-- The number under which a record is put in as it is. -/
def numberFor (table : Table R) (record : R) : UInt64 :=
  (table.ownNumber? record).getD table.nextId

theorem ownNumber?_eq_some {table : Table R} {record : R} {id : UInt64}
    (h : table.ownNumber? record = some id) : 0 < id ∧ table.find id = none := by
  unfold ownNumber? at h
  split at h
  · obtain ⟨_, hkept⟩ := Option.filter_eq_some_iff.mp h
    obtain ⟨hpos, hfree⟩ := (Bool.and_eq_true _ _).mp hkept
    exact ⟨of_decide_eq_true hpos, Option.isNone_iff_eq_none.mp hfree⟩
  · exact absurd h (by simp)

def counterAfter (table : Table R) (record : R) : UInt64 :=
  match table.ownNumber? record with
  | some id => max table.nextId (id + 1)
  | none => table.nextId + 1

theorem entriesOf_eq_ok_iff {payload : Json} {entries : Entries} :
    entriesOf payload = .ok entries ↔ payload = .object entries := by
  cases payload <;> simp [entriesOf]

theorem insert_of_object {record : R} {entries : Entries}
    (h : Storable.encode record = .object entries) (table : Table R) :
    insert record table =
      match Storable.decode (.object (table.stamped (table.numberFor record) entries)) with
      | .ok stored => (.ok (table.numberFor record), { table with
          rows := Rows.insert (table.numberFor record) stored table.rows
          nextId := table.counterAfter record })
      | .error problem =>
        (.error (.backend problem.message), { table with nextId := table.counterAfter record }) := by
  have hentries : entriesOf (Storable.encode record) = .ok entries := by
    rw [h]
    rfl
  have hslot : (Storable.encode record).get? table.idField =
      Entries.get? entries table.idField := by
    rw [h]
    rfl
  simp only [insert, hentries, numberFor, counterAfter, ownNumber?, hslot]
  cases Entries.get? entries table.idField with
  | none => rfl
  | some value =>
    cases value with
    | number n =>
      dsimp only
      cases n.toUInt64?.filter fun id => decide (0 < id) && (table.find id).isNone <;> rfl
    | _ => rfl

theorem insert_cases (record : R) (table : Table R) :
    (∃ failure, entriesOf (Storable.encode record) = .error failure ∧
      insert record table = (.error failure, table)) ∨
    (∃ failure entries, Storable.encode record = .object entries ∧ insert record table =
      (.error failure, { table with nextId := table.counterAfter record })) ∨
    ∃ entries stored, Storable.encode record = .object entries ∧
      Storable.decode (.object (table.stamped (table.numberFor record) entries)) = .ok stored ∧
      insert record table = (.ok (table.numberFor record), { table with
        rows := Rows.insert (table.numberFor record) stored table.rows
        nextId := table.counterAfter record }) := by
  cases hentries : entriesOf (Storable.encode record) with
  | error failure =>
    refine Or.inl ⟨failure, rfl, ?_⟩
    simp only [insert, hentries]
  | ok entries =>
    have hobject := entriesOf_eq_ok_iff.mp hentries
    rw [insert_of_object hobject]
    split
    · rename_i stored hread
      exact Or.inr (Or.inr ⟨entries, stored, hobject, hread, rfl⟩)
    · rename_i problem hread
      exact Or.inr (Or.inl ⟨_, entries, hobject, rfl⟩)

theorem create_cases (payload : Json) (table : Table R) :
    (∃ failure, failure.isFault = false ∧ create payload table = (.error failure, table)) ∨
    ∃ entries record, payload = .object entries ∧
      table.materialize table.nextId entries = .ok record ∧
      create payload table = (.ok record, { table with
        rows := Rows.insert table.nextId record table.rows
        nextId := table.nextId + 1 }) := by
  unfold create
  split
  · rename_i failure hentries
    exact Or.inl ⟨failure, isFault_of_entriesOf hentries, rfl⟩
  · rename_i entries hentries
    split
    · rename_i failure hmade
      exact Or.inl ⟨failure, isFault_of_materialize hmade, rfl⟩
    · rename_i record hmade
      exact Or.inr ⟨entries, record, entriesOf_eq_ok_iff.mp hentries, hmade, rfl⟩

theorem update_cases (id : UInt64) (payload : Json) (table : Table R) :
    (∃ failure, failure.isFault = false ∧ update id payload table = (.error failure, table)) ∨
    ∃ changes current entries record, payload = .object changes ∧
      table.find id = some current ∧ Storable.encode current = .object entries ∧
      table.materialize id (Entries.overlay entries changes) = .ok record ∧
      update id payload table =
        (.ok record, { table with rows := Rows.insert id record table.rows }) := by
  unfold update
  split
  · rename_i failure hchanges
    exact Or.inl ⟨failure, isFault_of_entriesOf hchanges, rfl⟩
  · rename_i changes hchanges
    split
    · exact Or.inl ⟨.notFound, rfl, rfl⟩
    · rename_i current hcurrent
      split
      · rename_i failure hentries
        exact Or.inl ⟨failure, isFault_of_entriesOf hentries, rfl⟩
      · rename_i entries hentries
        split
        · rename_i failure hmade
          exact Or.inl ⟨failure, isFault_of_materialize hmade, rfl⟩
        · rename_i record hmade
          exact Or.inr ⟨changes, current, entries, record, entriesOf_eq_ok_iff.mp hchanges,
            hcurrent, entriesOf_eq_ok_iff.mp hentries, hmade, rfl⟩

section Outcome

variable {table : Table R} {id : UInt64}

theorem create_fst (entries : Entries) (table : Table R) :
    (create (.object entries) table).1 = table.materialize table.nextId entries := by
  rw [create, entriesOf]
  dsimp only
  cases table.materialize table.nextId entries <;> rfl

theorem update_fst {current : R} {entries : Entries} (hfind : table.find id = some current)
    (hobject : Storable.encode current = .object entries) (changes : Entries) :
    (update id (.object changes) table).1 =
      table.materialize id (Entries.overlay entries changes) := by
  simp only [update, entriesOf, hfind, hobject]
  cases table.materialize id (Entries.overlay entries changes) <;> rfl

theorem reports_create (payload : Json) (table : Table R) :
    Reports table table.nextId (create payload table) := by
  rcases create_cases payload table with ⟨failure, _, heq⟩ | ⟨_, record, _, _, heq⟩
  · rw [heq]
    exact rfl
  · rw [heq]
    exact (Rows.get?_insert table.nextId table.nextId record table.rows).trans (if_pos rfl)

theorem reports_update (id : UInt64) (payload : Json) (table : Table R) :
    Reports table id (update id payload table) := by
  rcases update_cases id payload table with ⟨failure, _, heq⟩ | ⟨_, _, _, record, _, _, _, _, heq⟩
  · rw [heq]
    exact rfl
  · rw [heq]
    exact (Rows.get?_insert id id record table.rows).trans (if_pos rfl)

theorem find_create {payload : Json} {record : R} (h : (create payload table).1 = .ok record) :
    (create payload table).2.find table.nextId = some record :=
  (reports_create payload table).find h

theorem find_update {payload : Json} {record : R}
    (h : (update id payload table).1 = .ok record) :
    (update id payload table).2.find id = some record :=
  (reports_update id payload table).find h

end Outcome

/-! ## Tables that are filled -/

theorem inserted_of_ok {record : R} {table after : Table R} {id : UInt64}
    (h : insert record table = (.ok id, after)) :
    ∃ entries stored, Storable.encode record = .object entries ∧
      Storable.decode (.object (table.stamped (table.numberFor record) entries)) = .ok stored ∧
      after = { table with
        rows := Rows.insert (table.numberFor record) stored table.rows
        nextId := table.counterAfter record } := by
  rcases insert_cases record table with ⟨failure, _, heq⟩ | ⟨failure, _, _, heq⟩ |
    ⟨entries, stored, hobject, hread, heq⟩
  · rw [heq] at h
    exact absurd (congrArg Prod.fst h) (by simp)
  · rw [heq] at h
    exact absurd (congrArg Prod.fst h) (by simp)
  · rw [heq] at h
    exact ⟨entries, stored, hobject, hread, (congrArg Prod.snd h).symm⟩

theorem insertAll_cons {record : R} {rest : List R} {table last : Table R}
    (h : insertAll (record :: rest) table = (.ok (), last)) :
    ∃ id next, insert record table = (.ok id, next) ∧ insertAll rest next = (.ok (), last) := by
  rw [insertAll] at h
  split at h
  · rename_i id next heq
    exact ⟨id, next, heq, h⟩
  · exact absurd (congrArg Prod.fst h) (by simp)

theorem fields_insertAll {records : List R} {table last : Table R}
    (h : insertAll records table = (.ok (), last)) :
    last.idField = table.idField ∧ last.unique = table.unique := by
  induction records generalizing table with
  | nil =>
    obtain rfl : table = last := congrArg Prod.snd h
    exact ⟨rfl, rfl⟩
  | cons record rest ih =>
    obtain ⟨id, next, hinsert, hrest⟩ := insertAll_cons h
    obtain ⟨_, _, _, _, rfl⟩ := inserted_of_ok hinsert
    apply ih hrest

/-! ## Calls one after the other -/

namespace Call

def run (table : Table R) : Call R → Table R
  | insert record => (Table.insert record table).2
  | create payload => (Table.create payload table).2
  | update id payload => (Table.update id payload table).2
  | delete id => (Table.delete id table).2

inductive Makes (table : Table R) : Call R → Table R → Prop where
  | unchanged (call : Call R) : Makes table call table
  | spent {record : R} {entries : Entries} (hobject : Storable.encode record = .object entries) :
      Makes table (insert record) { table with nextId := table.counterAfter record }
  | inserted {record stored : R} {entries : Entries}
      (hobject : Storable.encode record = .object entries)
      (hread : Storable.decode (.object (table.stamped (table.numberFor record) entries)) =
        .ok stored) :
      Makes table (insert record) { table with
        rows := Rows.insert (table.numberFor record) stored table.rows
        nextId := table.counterAfter record }
  | created {record : R} {entries : Entries}
      (hmade : table.materialize table.nextId entries = .ok record) :
      Makes table (create (.object entries)) { table with
        rows := Rows.insert table.nextId record table.rows
        nextId := table.nextId + 1 }
  | updated {id : UInt64} {current record : R} {entries changes : Entries}
      (hfind : table.find id = some current)
      (hobject : Storable.encode current = .object entries)
      (hmade : table.materialize id (Entries.overlay entries changes) = .ok record) :
      Makes table (update id (.object changes))
        { table with rows := Rows.insert id record table.rows }
  | deleted {id : UInt64} {record : R} (hfind : table.find id = some record) :
      Makes table (delete id) { table with rows := Rows.erase id table.rows }

theorem makes_run (table : Table R) (call : Call R) : Makes table call (run table call) := by
  cases call with
  | insert record =>
    rcases insert_cases record table with ⟨_, _, heq⟩ | ⟨_, entries, hobject, heq⟩ |
      ⟨entries, stored, hobject, hread, heq⟩
    · rw [run, heq]
      exact .unchanged _
    · rw [run, heq]
      exact .spent hobject
    · rw [run, heq]
      exact .inserted hobject hread
  | create payload =>
    rcases create_cases payload table with ⟨_, _, heq⟩ | ⟨entries, record, rfl, hmade, heq⟩
    · rw [run, heq]
      exact .unchanged _
    · rw [run, heq]
      exact .created hmade
  | update id payload =>
    rcases update_cases id payload table with ⟨_, _, heq⟩ |
      ⟨changes, current, entries, record, rfl, hfind, hobject, hmade, heq⟩
    · rw [run, heq]
      exact .unchanged _
    · rw [run, heq]
      exact .updated hfind hobject hmade
  | delete id =>
    rcases delete_cases id table with ⟨_, heq⟩ | ⟨record, hfind, heq⟩
    · rw [run, heq]
      exact .unchanged _
    · rw [run, heq]
      exact .deleted hfind

theorem Makes.fields {table after : Table R} {call : Call R} (h : Makes table call after) :
    after.idField = table.idField ∧ after.unique = table.unique := by
  cases h <;> exact ⟨rfl, rfl⟩

def after (calls : List (Call R)) (start : Table R) (n : Nat) : Table R :=
  (calls.take n).foldl run start

section After

variable {calls : List (Call R)} {start : Table R} {n : Nat}

theorem after_succ {call : Call R} (h : calls[n]? = some call) :
    after calls start (n + 1) = run (after calls start n) call := by
  rw [after, after, List.take_add_one, h, List.foldl_append]
  rfl

theorem after_succ_of_end (h : calls[n]? = none) :
    after calls start (n + 1) = after calls start n := by
  rw [after, after, List.take_add_one, h]
  exact congrArg (List.foldl run start) (List.append_nil _)

/-- What holds of the first table and is kept by every call of a list holds all along. -/
theorem after_induction {P : Table R → Prop} (hstart : P start)
    (hstep : ∀ n call, calls[n]? = some call → P (after calls start n) →
      P (run (after calls start n) call)) (n : Nat) : P (after calls start n) := by
  induction n with
  | zero => exact hstart
  | succ n ih =>
    cases hcall : calls[n]? with
    | none =>
      rw [after_succ_of_end hcall]
      exact ih
    | some call =>
      rw [after_succ hcall]
      exact hstep n call hcall ih

end After

end Call

end Table

end RecordQuery
