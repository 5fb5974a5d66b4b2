import RecordQuery.Proofs.Store.Numbering

/-!
# Tables that are filled again

The records of a table, put one after the other into an empty one, get the numbers that they had.
The counter comes to stand right behind the highest of them, also where it stood further on before.
-/

namespace RecordQuery

theorem JsonNumber.toUInt64?_ofUInt64 (n : UInt64) : (ofUInt64 n).toUInt64? = some n := by
  simp [toUInt64?, ofUInt64]

theorem Rows.insert_last {R : Type} {rows : List (UInt64 × R)} {id : UInt64}
    (h : ∀ row ∈ rows, row.1 < id) (record : R) : insert id record rows = rows ++ [(id, record)] := by
  induction rows with
  | nil => rfl
  | cons row rest ih =>
    obtain ⟨i, r⟩ := row
    obtain ⟨hlt, hrest⟩ := List.forall_mem_cons.mp h
    have hlt : i < id := hlt
    rw [insert, if_neg (UInt64.ne_of_lt hlt).symm, if_neg (UInt64.lt_asymm hlt), ih hrest]
    rfl

namespace Table

variable {R : Type}

theorem toNat_max (a b : UInt64) : (max a b).toNat = max a.toNat b.toNat := by
  change (if a ≤ b then b else a).toNat = if a.toNat ≤ b.toNat then b.toNat else a.toNat
  simp only [UInt64.le_iff_toNat_le]
  split <;> rfl

theorem toNat_add_one {id : UInt64} (h : id ≠ lastNumber) : (id + 1).toNat = id.toNat + 1 := by
  have hlt := UInt64.lt_iff_toNat_lt.mp (lt_add_one_of_ne_last h)
  have hbound := id.toNat_lt
  rw [UInt64.toNat_add] at hlt ⊢
  simp only [UInt64.toNat_one] at hlt ⊢
  omega

/-- The highest number of the records, zero where there are none. -/
def highestNumber (table : Table R) : Nat :=
  table.rows.foldl (fun highest row => max highest row.1.toNat) 0

/-- The counter behind the numbers of the rows. -/
def counterBehind (rows : List (UInt64 × R)) (counter : UInt64) : UInt64 :=
  rows.foldl (fun counter row => max counter (row.1 + 1)) counter

theorem toNat_counterBehind {rows : List (UInt64 × R)} (hfree : ∀ row ∈ rows, row.1 ≠ lastNumber)
    {counter : UInt64} {highest : Nat} (h : counter.toNat = highest + 1) :
    (counterBehind rows counter).toNat =
      rows.foldl (fun highest row => max highest row.1.toNat) highest + 1 := by
  induction rows generalizing counter highest with
  | nil => exact h
  | cons row rest ih =>
    obtain ⟨hrow, hrest⟩ := List.forall_mem_cons.mp hfree
    apply ih hrest
    rw [toNat_max, toNat_add_one hrow, h]
    exact Nat.succ_max_succ highest row.1.toNat

variable [Storable R]

/-- The record is read back from what it is written as, with its number in the field. -/
def Rereads (field : String) (row : UInt64 × R) : Prop :=
  ∃ entries, Storable.encode row.2 = .object entries ∧
    Storable.decode (.object (Entries.insert field (.number (.ofUInt64 row.1)) entries)) =
      .ok row.2

/-- A record whose number is behind those of the table keeps it. -/
theorem insert_behind {table : Table R} {row : UInt64 × R}
    (hbehind : ∀ other ∈ table.rows, other.1 < row.1) (hpos : 1 ≤ row.1)
    (hcarried : (Storable.encode row.2).get? table.idField = some (.number (.ofUInt64 row.1)))
    (hrereads : Rereads table.idField row) :
    insert row.2 table = (.ok row.1, { table with
      rows := table.rows ++ [row]
      nextId := max table.nextId (row.1 + 1) }) := by
  obtain ⟨entries, hobject, hread⟩ := hrereads
  have hfree : table.find row.1 = none :=
    Rows.get?_eq_none_iff.mpr fun other hother => UInt64.ne_of_lt (hbehind other hother)
  have hown : table.ownNumber? row.2 = some row.1 := by
    have hpos : 0 < row.1 := UInt64.lt_of_lt_of_le (by decide) hpos
    simp [ownNumber?, hcarried, JsonNumber.toUInt64?_ofUInt64, hfree, hpos]
  have hnumber : table.numberFor row.2 = row.1 := by
    rw [numberFor, hown, Option.getD_some]
  have hcounter : table.counterAfter row.2 = max table.nextId (row.1 + 1) := by
    rw [counterAfter, hown]
  rw [insert_of_object hobject, hnumber, hcounter, stamped, hread]
  dsimp only
  rw [Rows.insert_last hbehind]

/-- Further rows are put in behind those of a table. The induction is on the rows to put in. -/
theorem insertAll_behind {rows : List (UInt64 × R)} (table : Table R)
    (hascending : Rows.Ascending (table.rows ++ rows)) (hpos : ∀ row ∈ rows, 1 ≤ row.1)
    (hcarried : ∀ row ∈ rows,
      (Storable.encode row.2).get? table.idField = some (.number (.ofUInt64 row.1)))
    (hrereads : ∀ row ∈ rows, Rereads table.idField row) :
    insertAll (rows.map Prod.snd) table = (.ok (), { table with
      rows := table.rows ++ rows
      nextId := counterBehind rows table.nextId }) := by
  induction rows generalizing table with
  | nil => rw [List.append_nil]; rfl
  | cons row rest ih =>
    obtain ⟨hrowPos, hrestPos⟩ := List.forall_mem_cons.mp hpos
    obtain ⟨hrowCarried, hrestCarried⟩ := List.forall_mem_cons.mp hcarried
    obtain ⟨hrowRereads, hrestRereads⟩ := List.forall_mem_cons.mp hrereads
    have hbehind : ∀ other ∈ table.rows, other.1 < row.1 := fun other hother =>
      (List.pairwise_append.mp hascending).2.2 other hother row List.mem_cons_self
    rw [List.map_cons, insertAll, insert_behind hbehind hrowPos hrowCarried hrowRereads]
    let next : Table R := { table with
      rows := table.rows ++ [row]
      nextId := max table.nextId (row.1 + 1) }
    have hsplit : next.rows ++ rest = table.rows ++ row :: rest := List.append_cons .. |>.symm
    refine (ih next (hsplit ▸ hascending) hrestPos hrestCarried hrestRereads).trans ?_
    rw [hsplit]
    rfl

/-- A table that is filled with the records of another one has the same rows. -/
theorem insertAll_records {table : Table R} (h : Numbered table) (hfree : table.LastFree)
    (hrereads : ∀ row ∈ table.rows, Rereads table.idField row) :
    ∃ counter, insertAll table.records ⟨[], 1, table.idField, []⟩ =
        (.ok (), ⟨table.rows, counter, table.idField, []⟩) ∧
      counter.toNat = table.highestNumber + 1 := by
  refine ⟨counterBehind table.rows 1, ?_, toNat_counterBehind hfree rfl⟩
  exact insertAll_behind ⟨[], 1, table.idField, []⟩ h.ascending h.positive h.carried hrereads

/-! ## Records that were read -/

section Read

variable {P : R → Prop}
variable (hread : ∀ entries record, Storable.decode (.object entries) = .ok record → P record)
include hread

theorem forall_records_insertAll {records : List R} {table last : Table R}
    (h : insertAll records table = (.ok (), last)) (htable : ∀ row ∈ table.rows, P row.2) :
    ∀ row ∈ last.rows, P row.2 := by
  induction records generalizing table with
  | nil =>
    obtain rfl : table = last := congrArg Prod.snd h
    exact htable
  | cons record rest ih =>
    obtain ⟨id, next, hinsert, hrest⟩ := insertAll_cons h
    obtain ⟨entries, stored, _, hstored, rfl⟩ := inserted_of_ok hinsert
    refine ih hrest fun row hrow => ?_
    rcases Rows.mem_insert hrow with rfl | hrow
    · exact hread _ _ hstored
    · exact htable row hrow

theorem Call.Makes.forall_records {table after : Table R} {call : Call R}
    (hmakes : Makes table call after) (htable : ∀ row ∈ table.rows, P row.2) :
    ∀ row ∈ after.rows, P row.2 := by
  intro row hrow
  cases hmakes with
  | unchanged | spent => exact htable row hrow
  | inserted _ hstored =>
    rcases Rows.mem_insert hrow with rfl | hrow
    · exact hread _ _ hstored
    · exact htable row hrow
  | created hmade | updated _ _ hmade =>
    rcases Rows.mem_insert hrow with rfl | hrow
    · exact hread _ _ (materialize_eq_ok_iff.mp hmade).2
    · exact htable row hrow
  | deleted => exact htable row (Rows.mem_of_mem_erase hrow)

end Read

end Table

end RecordQuery
