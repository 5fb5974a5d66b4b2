import Mathlib.Data.List.Pairwise
import RecordQuery.Page
import RecordQuery.Store.Table

/-!
# Well-formed tables

What holds of the rows of every table: their numbers ascend, and 64 bits count them. Putting a row
in and taking one out keep the numbers ascending. The records in the order of their numbers are then
the records as they stand.
-/

namespace RecordQuery

/-! ## Ascending rows -/

namespace Rows

variable {R : Type}

def Ascending (rows : List (UInt64 × R)) : Prop := rows.Pairwise fun a b => a.1 < b.1

instance isTrans_number : IsTrans (UInt64 × R) fun a b => a.1 < b.1 :=
  ⟨fun _ _ _ => UInt64.lt_trans⟩

theorem mem_insert {row : UInt64 × R} {id : UInt64} {record : R} {rows : List (UInt64 × R)}
    (h : row ∈ insert id record rows) : row = (id, record) ∨ row ∈ rows := by
  induction rows with
  | nil => exact Or.inl (List.mem_singleton.mp h)
  | cons first rest ih =>
    obtain ⟨i, r⟩ := first
    rw [insert] at h
    split at h
    · rcases List.mem_cons.mp h with rfl | hrest
      · exact Or.inl rfl
      · exact Or.inr (List.mem_cons_of_mem _ hrest)
    · split at h
      · exact List.mem_cons.mp h
      · rcases List.mem_cons.mp h with rfl | hrest
        · exact Or.inr List.mem_cons_self
        · exact (ih hrest).imp_right (List.mem_cons_of_mem _)

theorem mem_insert_self (id : UInt64) (record : R) (rows : List (UInt64 × R)) :
    (id, record) ∈ insert id record rows := by
  induction rows with
  | nil => exact List.mem_singleton_self _
  | cons first rest ih =>
    obtain ⟨i, r⟩ := first
    rw [insert]
    split
    · exact List.mem_cons_self
    · split
      · exact List.mem_cons_self
      · exact List.mem_cons_of_mem _ ih

theorem mem_insert_of_ne {row : UInt64 × R} {id : UInt64} {rows : List (UInt64 × R)}
    (h : row ∈ rows) (hne : row.1 ≠ id) (record : R) : row ∈ insert id record rows := by
  induction rows with
  | nil => exact absurd h List.not_mem_nil
  | cons first rest ih =>
    obtain ⟨i, r⟩ := first
    rw [insert]
    split
    · rename_i heq
      subst heq
      rcases List.mem_cons.mp h with rfl | hrest
      · exact absurd rfl hne
      · exact List.mem_cons_of_mem _ hrest
    · split
      · exact List.mem_cons_of_mem _ h
      · rcases List.mem_cons.mp h with rfl | hrest
        · exact List.mem_cons_self
        · exact List.mem_cons_of_mem _ (ih hrest)

theorem Ascending.insert {rows : List (UInt64 × R)} (h : Ascending rows) (id : UInt64)
    (record : R) : Ascending (insert id record rows) := by
  induction rows with
  | nil => exact List.pairwise_singleton _ _
  | cons first rest ih =>
    obtain ⟨i, r⟩ := first
    obtain ⟨hfirst, hrest⟩ := List.pairwise_cons.mp h
    rw [Rows.insert]
    split
    · rename_i heq
      subst heq
      exact List.pairwise_cons.mpr ⟨hfirst, hrest⟩
    · split
      · rename_i hlt
        exact List.pairwise_cons_cons_iff_of_trans.mpr ⟨hlt, h⟩
      · rename_i hne hnot
        have hgt : i < id := UInt64.lt_of_le_of_ne (UInt64.not_lt.mp hnot) (Ne.symm hne)
        refine List.pairwise_cons.mpr ⟨?_, ih hrest⟩
        intro row hmem
        rcases mem_insert hmem with rfl | hmem
        · exact hgt
        · exact hfirst row hmem

theorem Ascending.erase {rows : List (UInt64 × R)} (h : Ascending rows) (id : UInt64) :
    Ascending (erase id rows) := h.filter _

theorem mem_of_mem_erase {row : UInt64 × R} {id : UInt64} {rows : List (UInt64 × R)}
    (h : row ∈ erase id rows) : row ∈ rows := (List.mem_filter.mp h).1

theorem mem_of_get? {id : UInt64} {record : R} {rows : List (UInt64 × R)}
    (h : get? id rows = some record) : (id, record) ∈ rows := by
  obtain ⟨before, after, rfl, _⟩ := List.lookup_eq_some_iff.mp h
  exact List.mem_append_right _ List.mem_cons_self

theorem get?_eq_none_iff {id : UInt64} {rows : List (UInt64 × R)} :
    get? id rows = none ↔ ∀ row ∈ rows, row.1 ≠ id := by
  rw [get?, List.lookup_eq_none_iff]
  refine forall₂_congr fun row _ => ?_
  rw [bne_iff_ne, ne_comm]

theorem length_insert_of_free {id : UInt64} {rows : List (UInt64 × R)}
    (h : get? id rows = none) (record : R) :
    (insert id record rows).length = rows.length + 1 := by
  induction rows with
  | nil => rfl
  | cons first rest ih =>
    obtain ⟨i, r⟩ := first
    rw [get?_cons] at h
    split at h
    · exact absurd h (by simp)
    · rename_i hne
      rw [insert, if_neg hne]
      split
      · rfl
      · exact congrArg (· + 1) (ih h)

section Taken

variable {rows : List (UInt64 × R)} (h : Ascending rows) {id : UInt64} {current : R}
variable (hfind : get? id rows = some current)
include h hfind

theorem Ascending.length_insert_of_taken (record : R) :
    (Rows.insert id record rows).length = rows.length := by
  induction rows with
  | nil => exact absurd hfind (by simp [get?])
  | cons first rest ih =>
    obtain ⟨i, r⟩ := first
    obtain ⟨hfirst, hrest⟩ := List.pairwise_cons.mp h
    rw [get?_cons] at hfind
    rw [Rows.insert]
    split
    · rfl
    · rename_i hne
      rw [if_neg hne] at hfind
      have hlt : i < id := hfirst _ (mem_of_get? hfind)
      rw [if_neg (UInt64.lt_asymm hlt)]
      exact congrArg (· + 1) (ih hrest hfind)

theorem Ascending.length_erase_of_taken : (Rows.erase id rows).length + 1 = rows.length := by
  induction rows with
  | nil => exact absurd hfind (by simp [get?])
  | cons first rest ih =>
    obtain ⟨i, r⟩ := first
    obtain ⟨hfirst, hrest⟩ := List.pairwise_cons.mp h
    rw [get?_cons] at hfind
    by_cases heq : id = i
    · subst heq
      have hkeep : ∀ row ∈ rest, (row.1 != id) = true := fun row hrow =>
        bne_iff_ne.mpr (UInt64.ne_of_lt (hfirst row hrow)).symm
      rw [Rows.erase, List.filter_cons_of_neg (by simp), List.filter_eq_self.mpr hkeep]
      rfl
    · rw [if_neg heq] at hfind
      rw [Rows.erase, List.filter_cons_of_pos (by simpa using Ne.symm heq)]
      exact congrArg (· + 1) (ih hrest hfind)

end Taken

end Rows

namespace Table

variable {R : Type}

structure WellFormed (table : Table R) : Prop where
  ascending : Rows.Ascending table.rows
  size_le : table.size ≤ Page.maxIndex

def byNumber (table : Table R) : List R :=
  (table.rows.mergeSort fun a b => decide (a.1 ≤ b.1)).map Prod.snd

theorem WellFormed.byNumber_eq {table : Table R} (h : table.WellFormed) :
    table.byNumber = table.records := by
  have hsorted : table.rows.Pairwise fun a b => decide (a.1 ≤ b.1) = true := by
    apply h.ascending.imp
    intro a b hab
    exact decide_eq_true (UInt64.le_of_lt hab)
  rw [byNumber, List.mergeSort_of_pairwise hsorted, records]

theorem length_records (table : Table R) : table.records.length = table.size :=
  List.length_map _

end Table

end RecordQuery
