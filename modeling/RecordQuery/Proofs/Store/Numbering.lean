import Mathlib.Control.Monad.Basic
import RecordQuery.Proofs.Catalog.Item

/-!
# Numbers of a table

Every record stands under a positive number below the counter and carries that number itself. The
counter only rises, so that a number that was given out is never given out again, not even after
its record is gone. All of this rests on the counter not running over.
-/

namespace RecordQuery.Table

def lastNumber : UInt64 := 0xFFFFFFFFFFFFFFFF

theorem lt_add_one_of_ne_last {number : UInt64} (h : number ≠ lastNumber) : number < number + 1 :=
  UInt64.lt_add_one h

theorem one_le_of_pos {number : UInt64} (h : 0 < number) : 1 ≤ number :=
  UInt64.le_iff_toNat_le.mpr (UInt64.lt_iff_toNat_lt.mp h)

theorem le_max_both (a b : UInt64) : a ≤ max a b ∧ b ≤ max a b := by
  change a ≤ (if a ≤ b then b else a) ∧ b ≤ (if a ≤ b then b else a)
  split
  · rename_i h
    exact ⟨h, UInt64.le_refl b⟩
  · rename_i h
    exact ⟨UInt64.le_refl a, UInt64.le_of_lt (UInt64.not_le.mp h)⟩

variable {R : Type}

def LastFree (table : Table R) : Prop := ∀ row ∈ table.rows, row.1 ≠ lastNumber

instance (table : Table R) : Decidable table.LastFree :=
  inferInstanceAs (Decidable (∀ row ∈ table.rows, row.1 ≠ lastNumber))

/-- A table without records, with the field that holds the number and the unique fields. -/
def declared (idField : String) (unique : List String) : Table R :=
  unique.foldl withUnique (empty.withIdField idField)

theorem declared_eq (idField : String) (unique : List String) :
    (declared idField unique : Table R) = ⟨[], 1, idField, unique⟩ := by
  have hfold (table : Table R) :
      unique.foldl withUnique table = { table with unique := table.unique ++ unique } := by
    induction unique generalizing table with
    | nil => simp
    | cons field rest ih => simp [ih, withUnique]
  rw [declared, hfold]
  rfl

variable [Storable R]

theorem counterAfter_bounds {table : Table R} {record : R}
    (hlast : table.numberFor record ≠ lastNumber) :
    table.numberFor record < table.counterAfter record ∧
      table.nextId ≤ table.counterAfter record := by
  unfold numberFor at hlast ⊢
  unfold counterAfter
  cases hown : table.ownNumber? record with
  | none =>
    rw [hown] at hlast
    have hlt := lt_add_one_of_ne_last hlast
    exact ⟨hlt, UInt64.le_of_lt hlt⟩
  | some number =>
    rw [hown] at hlast
    obtain ⟨hcounter, hnumber⟩ := le_max_both table.nextId (number + 1)
    exact ⟨UInt64.lt_of_lt_of_le (lt_add_one_of_ne_last hlast) hnumber, hcounter⟩

/-- The numbers of a table are in order: positive, below the counter, and carried by the records
that stand under them. -/
structure Numbered (table : Table R) : Prop where
  ascending : Rows.Ascending table.rows
  counter_pos : 1 ≤ table.nextId
  positive : ∀ row ∈ table.rows, 1 ≤ row.1
  below : ∀ row ∈ table.rows, row.1 < table.nextId
  carried : ∀ row ∈ table.rows,
    (Storable.encode row.2).get? table.idField = some (.number (.ofUInt64 row.1))

namespace Numbered

theorem of_nil (counter : UInt64) (hcounter : 1 ≤ counter) (idField : String)
    (unique : List String) : Numbered (⟨[], counter, idField, unique⟩ : Table R) := by
  refine ⟨List.Pairwise.nil, hcounter, ?_, ?_, ?_⟩ <;> intro row hrow <;>
    exact absurd hrow List.not_mem_nil

variable {table : Table R} (h : Numbered table)
include h

theorem withUnique (field : String) : Numbered (table.withUnique field) :=
  ⟨h.ascending, h.counter_pos, h.positive, h.below, h.carried⟩

theorem find_nextId : table.find table.nextId = none :=
  Rows.get?_eq_none_iff.mpr fun row hrow => UInt64.ne_of_lt (h.below row hrow)

/-- A record may be put under any number as long as the counter ends up beyond it. -/
theorem put {number counter : UInt64} {record : R} (hpos : 1 ≤ number) (hlt : number < counter)
    (hle : table.nextId ≤ counter)
    (hcarried : (Storable.encode record).get? table.idField =
      some (.number (.ofUInt64 number))) :
    Numbered { table with rows := Rows.insert number record table.rows, nextId := counter } := by
  refine ⟨h.ascending.insert number record, UInt64.le_trans h.counter_pos hle, ?_, ?_, ?_⟩
  · intro row hrow
    rcases Rows.mem_insert hrow with rfl | hrow
    · exact hpos
    · exact h.positive row hrow
  · intro row hrow
    rcases Rows.mem_insert hrow with rfl | hrow
    · exact hlt
    · exact UInt64.lt_of_lt_of_le (h.below row hrow) hle
  · intro row hrow
    rcases Rows.mem_insert hrow with rfl | hrow
    · exact hcarried
    · exact h.carried row hrow

theorem raise {counter : UInt64} (hle : table.nextId ≤ counter) :
    Numbered { table with nextId := counter } :=
  ⟨h.ascending, UInt64.le_trans h.counter_pos hle, h.positive,
    fun row hrow => UInt64.lt_of_lt_of_le (h.below row hrow) hle, h.carried⟩

theorem erase (number : UInt64) :
    Numbered { table with rows := Rows.erase number table.rows } :=
  ⟨h.ascending.erase number, h.counter_pos,
    fun row hrow => h.positive row (Rows.mem_of_mem_erase hrow),
    fun row hrow => h.below row (Rows.mem_of_mem_erase hrow),
    fun row hrow => h.carried row (Rows.mem_of_mem_erase hrow)⟩

/-! ## Numbers that are given out -/

theorem numberFor_pos (record : R) : 1 ≤ table.numberFor record := by
  unfold numberFor
  cases hown : table.ownNumber? record with
  | none => exact h.counter_pos
  | some number => exact one_le_of_pos (ownNumber?_eq_some hown).1

theorem find_numberFor (record : R) : table.find (table.numberFor record) = none := by
  unfold numberFor
  cases hown : table.ownNumber? record with
  | none => exact h.find_nextId
  | some number => exact (ownNumber?_eq_some hown).2

end Numbered

/-! ## Tables that are filled -/

/-- A number stays taken while further records are put in. -/
theorem exists_row_of_insertAll {records : List R} {table last : Table R}
    (h : insertAll records table = (.ok (), last)) {row : UInt64 × R} (hrow : row ∈ table.rows) :
    ∃ kept ∈ last.rows, kept.1 = row.1 := by
  induction records generalizing table row with
  | nil =>
    obtain rfl : table = last := congrArg Prod.snd h
    exact ⟨row, hrow, rfl⟩
  | cons record rest ih =>
    obtain ⟨id, next, hinsert, hrest⟩ := insertAll_cons h
    obtain ⟨entries, stored, _, _, rfl⟩ := inserted_of_ok hinsert
    by_cases hsame : row.1 = table.numberFor record
    · obtain ⟨kept, hkept, heq⟩ := ih hrest (Rows.mem_insert_self _ stored table.rows)
      exact ⟨kept, hkept, heq.trans hsame.symm⟩
    · exact ih hrest (Rows.mem_insert_of_ne hrow hsame stored)

theorem lastFree_of_insertAll {records : List R} {table last : Table R}
    (h : insertAll records table = (.ok (), last)) (hfree : last.LastFree) : table.LastFree := by
  intro row hrow
  obtain ⟨kept, hkept, heq⟩ := exists_row_of_insertAll h hrow
  exact heq ▸ hfree kept hkept

theorem numbered_insertAll {records : List R} {table last : Table R}
    (h : insertAll records table = (.ok (), last)) (hfree : last.LastFree)
    (hcarries : CarriesNumber R table.idField) (hnumbered : Numbered table) :
    Numbered last ∧ last.idField = table.idField ∧ last.unique = table.unique := by
  induction records generalizing table with
  | nil =>
    obtain rfl : table = last := congrArg Prod.snd h
    exact ⟨hnumbered, rfl, rfl⟩
  | cons record rest ih =>
    obtain ⟨id, next, hinsert, hrest⟩ := insertAll_cons h
    obtain ⟨entries, stored, hobject, hread, rfl⟩ := inserted_of_ok hinsert
    have hlast : table.numberFor record ≠ lastNumber :=
      lastFree_of_insertAll hrest hfree _ (Rows.mem_insert_self _ stored table.rows)
    obtain ⟨hlt, hle⟩ := counterAfter_bounds hlast
    have hnext := hnumbered.put (hnumbered.numberFor_pos record) hlt hle (hcarries _ _ _ hread)
    apply ih hrest hcarries hnext

/-! ## Numbers along a list of calls -/

namespace Call

/-- The number that a call gives out, if it gives one out. -/
def given? (table : Table R) : Call R → Option UInt64
  | insert record =>
    match Storable.encode record with
    | .object _ => some (table.numberFor record)
    | _ => none
  | create payload =>
    match (Table.create payload table).1 with
    | .ok _ => some table.nextId
    | .error _ => none
  | update _ _ | delete _ => none

def adds : Call R → Bool
  | insert _ | create _ => true
  | update _ _ | delete _ => false

theorem ne_last_of_given?_insert {table : Table R} {record : R} {entries : Entries}
    (hobject : Storable.encode record = .object entries)
    (hlast : given? table (insert record) ≠ some lastNumber) :
    table.numberFor record ≠ lastNumber := by
  have hgiven : given? table (insert record) = some (table.numberFor record) := by
    simp only [given?, hobject]
  exact fun heq => hlast (hgiven.trans (congrArg some heq))

theorem given?_create {table : Table R} {record : R} {entries : Entries}
    (hmade : table.materialize table.nextId entries = .ok record) :
    given? table (create (.object entries)) = some table.nextId := by
  simp only [given?, Table.create, entriesOf, hmade]

theorem ne_last_of_given?_create {table : Table R} {record : R} {entries : Entries}
    (hmade : table.materialize table.nextId entries = .ok record)
    (hlast : given? table (create (.object entries)) ≠ some lastNumber) :
    table.nextId ≠ lastNumber :=
  fun heq => hlast ((given?_create hmade).trans (congrArg some heq))

/-- No call gives out the last number, after which there is none to give out. -/
def InRange (calls : List (Call R)) (start : Table R) : Prop :=
  ∀ n < calls.length, ∀ call ∈ calls[n]?, given? (after calls start n) call ≠ some lastNumber

instance (calls : List (Call R)) (start : Table R) : Decidable (InRange calls start) :=
  inferInstanceAs (Decidable (∀ n < calls.length, ∀ call ∈ calls[n]?,
    given? (after calls start n) call ≠ some lastNumber))

section Step

variable {table after : Table R} {call : Call R} (hmakes : Makes table call after)
include hmakes

theorem Makes.numbered (h : Numbered table) (hcarries : CarriesNumber R table.idField)
    (hlast : given? table call ≠ some lastNumber) : Numbered after := by
  cases hmakes with
  | unchanged => exact h
  | spent hobject =>
    obtain ⟨_, hle⟩ := counterAfter_bounds (ne_last_of_given?_insert hobject hlast)
    exact h.raise hle
  | inserted hobject hread =>
    obtain ⟨hlt, hle⟩ := counterAfter_bounds (ne_last_of_given?_insert hobject hlast)
    exact h.put (h.numberFor_pos _) hlt hle (hcarries _ _ _ hread)
  | created hmade =>
    have hlt := lt_add_one_of_ne_last (ne_last_of_given?_create hmade hlast)
    exact h.put h.counter_pos hlt (UInt64.le_of_lt hlt)
      (hcarries _ _ _ (materialize_eq_ok_iff.mp hmade).2)
  | updated hfind _ hmade =>
    have hrow := Rows.mem_of_get? hfind
    exact h.put (h.positive _ hrow) (h.below _ hrow) (UInt64.le_refl _)
      (hcarries _ _ _ (materialize_eq_ok_iff.mp hmade).2)
  | deleted => exact h.erase _

theorem Makes.nextId_le (hlast : given? table call ≠ some lastNumber) :
    table.nextId ≤ after.nextId := by
  cases hmakes with
  | spent hobject => exact (counterAfter_bounds (ne_last_of_given?_insert hobject hlast)).2
  | inserted hobject _ => exact (counterAfter_bounds (ne_last_of_given?_insert hobject hlast)).2
  | created hmade =>
    exact UInt64.le_of_lt (lt_add_one_of_ne_last (ne_last_of_given?_create hmade hlast))
  | _ => exact UInt64.le_refl _

/-- Neither putting in a record nor creating one touches the records that are there. -/
theorem Makes.find_of_adds (h : Numbered table) (hadds : call.adds = true) {number : UInt64}
    {record : R} (hfind : table.find number = some record) : after.find number = some record := by
  cases hmakes with
  | unchanged | spent => exact hfind
  | inserted =>
    rw [find, Rows.get?_insert, if_neg]
    · exact hfind
    · rintro rfl
      exact absurd (hfind.symm.trans (h.find_numberFor _)) (by simp)
  | created =>
    rw [find, Rows.get?_insert, if_neg]
    · exact hfind
    · rintro rfl
      exact absurd (hfind.symm.trans h.find_nextId) (by simp)
  | updated | deleted => exact absurd hadds (by simp [adds])

end Step

section Run

variable {idField : String} {unique : List String} {calls : List (Call R)}
variable (hrange : InRange calls (declared idField unique))

theorem fields_after (n : Nat) :
    (after calls (declared idField unique) n).idField = idField ∧
      (after calls (declared idField unique) n).unique = unique := by
  refine after_induction (P := fun table => table.idField = idField ∧ table.unique = unique)
    ?_ ?_ n
  · rw [declared_eq]
    exact ⟨rfl, rfl⟩
  · intro n call _ h
    obtain ⟨hidField, hunique⟩ := (makes_run (after calls (declared idField unique) n) call).fields
    exact ⟨hidField.trans h.1, hunique.trans h.2⟩

include hrange

theorem given?_ne_last {n : Nat} {call : Call R} (hcall : calls[n]? = some call) :
    given? (after calls (declared idField unique) n) call ≠ some lastNumber := by
  obtain ⟨hlt, _⟩ := List.getElem?_eq_some_iff.mp hcall
  exact hrange n hlt call hcall

theorem numbered_after (hcarries : CarriesNumber R idField) (n : Nat) :
    Numbered (after calls (declared idField unique) n) := by
  apply after_induction
  · rw [declared_eq]
    exact .of_nil 1 (UInt64.le_refl _) idField unique
  · intro n call hcall h
    refine (makes_run _ call).numbered h ?_ (given?_ne_last hrange hcall)
    rw [(fields_after n).1]
    exact hcarries

theorem nextId_le_after {m n : Nat} (hle : m ≤ n) :
    (after calls (declared idField unique) m).nextId ≤
      (after calls (declared idField unique) n).nextId := by
  induction hle with
  | refl => exact UInt64.le_refl _
  | @step n _ ih =>
    cases hcall : calls[n]? with
    | none =>
      rw [after_succ_of_end hcall]
      exact ih
    | some call =>
      rw [after_succ hcall]
      exact UInt64.le_trans ih ((makes_run _ call).nextId_le (given?_ne_last hrange hcall))

end Run

end Call

open Table.Call

/-- Numbers identify the records of a table. After every call of a list that starts without
records, each record stands under a positive number below the counter and carries it; the counter
never falls; putting in or creating a record replaces none; and the number that a created record
gets stood over no record before, removed ones included. -/
theorem numbers_identify_records {idField : String} (unique : List String)
    (hcarries : CarriesNumber R idField) {calls : List (Call R)}
    (hrange : InRange calls (declared idField unique)) :
    let state := after calls (declared idField unique)
    (∀ n, ∀ row ∈ (state n).rows, 1 ≤ row.1 ∧ row.1 < (state n).nextId ∧
      (Storable.encode row.2).get? idField = some (.number (.ofUInt64 row.1))) ∧
    (∀ m n, m ≤ n → (state m).nextId ≤ (state n).nextId) ∧
    (∀ n call, calls[n]? = some call → call.adds = true → ∀ number record,
      (state n).find number = some record → (state (n + 1)).find number = some record) ∧
    (∀ n payload record, calls[n]? = some (.create payload) →
      (Table.create payload (state n)).1 = .ok record →
      ∃ number, (Storable.encode record).get? idField = some (.number (.ofUInt64 number)) ∧
        (state (n + 1)).find number = some record ∧
        ∀ m ≤ n, ∀ row ∈ (state m).rows, row.1 ≠ number) := by
  intro state
  have hnumbered : ∀ n, Numbered (state n) := numbered_after hrange hcarries
  have hidField : ∀ n, (state n).idField = idField := fun n => (fields_after n).1
  refine ⟨?_, fun m n => nextId_le_after hrange, ?_, ?_⟩
  · intro n row hrow
    refine ⟨(hnumbered n).positive row hrow, (hnumbered n).below row hrow, ?_⟩
    rw [← hidField n]
    exact (hnumbered n).carried row hrow
  · intro n call hcall hadds number record hfind
    have hsucc : state (n + 1) = run (state n) call := after_succ hcall
    rw [hsucc]
    exact (makes_run _ call).find_of_adds (hnumbered n) hadds hfind
  · intro n payload record hcall hmade
    have hsucc : state (n + 1) = (Table.create payload (state n)).2 := after_succ hcall
    rcases create_cases payload (state n) with ⟨_, _, heq⟩ | ⟨entries, made, _, hmaterial, heq⟩
    · rw [heq] at hmade
      exact absurd hmade (by simp)
    · rw [heq] at hmade hsucc
      obtain rfl : made = record := Except.ok.inj hmade
      refine ⟨(state n).nextId, ?_, ?_, ?_⟩
      · obtain ⟨_, hread⟩ := materialize_eq_ok_iff.mp hmaterial
        rw [stamped, hidField n] at hread
        exact hcarries entries _ made hread
      · rw [hsucc, find, Rows.get?_insert, if_pos rfl]
      · intro m hle row hrow
        exact UInt64.ne_of_lt
          (UInt64.lt_of_lt_of_le ((hnumbered m).below row hrow) (nextId_le_after hrange hle))

/-- Two items bring the number 7, and the second gets the number 8. The item created next is
removed again, and its number 9 is not given to the one created after it. -/
theorem numbers_of_replaced_items :
    let calls : List (Call Catalog.Item) :=
      [.insert (Catalog.sparePart 7 "A-1"), .insert (Catalog.sparePart 7 "A-2"),
        .create (Catalog.sparePayload "A-3"), .delete 9, .create (Catalog.sparePayload "A-4")]
    let state := after calls (declared "id" ["sku"])
    CarriesNumber Catalog.Item "id" ∧ InRange calls (declared "id" ["sku"]) ∧
      (state 5).find 10 = some (Catalog.sparePart 10 "A-4") ∧
      ∀ m ≤ 4, ∀ row ∈ (state m).rows, row.1 ≠ 10 := by
  intro calls state
  have hrange : InRange calls (declared "id" ["sku"]) := by decide +kernel
  have hmade : (Table.create (Catalog.sparePayload "A-4") (state 4)).1 =
      .ok (Catalog.sparePart 10 "A-4") := by decide +kernel
  obtain ⟨_, _, _, hcreated⟩ :=
    numbers_identify_records ["sku"] Catalog.Item.carriesNumber hrange
  obtain ⟨number, hcarried, hfind, hfresh⟩ := hcreated 4 _ _ rfl hmade
  obtain rfl : number = 10 := by
    have hnumber :=
      Option.some.inj (hcarried.symm.trans (Catalog.sparePart 10 "A-4").get?_id_encode)
    exact Decode.ofUInt64_inj (Json.number.inj hnumber)
  exact ⟨Catalog.Item.carriesNumber, hrange, hfind, hfresh⟩

end RecordQuery.Table
