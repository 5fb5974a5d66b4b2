import Mathlib.Data.List.Pairwise
import RecordQuery.Json.Basic

/-!
# Entries of objects

Entries in the order of their keys, each key once, stay so when a value is put in. Laid over other
entries they change what stands under their own keys and nothing else.
-/

namespace RecordQuery.Entries

def Ascending (entries : Entries) : Prop := entries.Pairwise fun a b => a.1 < b.1

instance isTrans_key {α : Type} : IsTrans (String × α) fun a b => a.1 < b.1 :=
  ⟨fun _ _ _ => String.lt_trans⟩

theorem lookup_of_mem {α : Type} {entries : List (String × α)} {key : String} {value : α}
    (h : entries.Pairwise fun a b => a.1 < b.1) (hmem : (key, value) ∈ entries) :
    entries.lookup key = some value := by
  induction entries with
  | nil => exact absurd hmem List.not_mem_nil
  | cons entry rest ih =>
    obtain ⟨k, v⟩ := entry
    obtain ⟨hfirst, hrest⟩ := List.pairwise_cons.mp h
    rw [List.lookup_cons]
    rcases List.mem_cons.mp hmem with heq | hmem
    · obtain ⟨rfl, rfl⟩ := Prod.mk.inj heq
      rw [beq_self_eq_true]
    · have hlt : k < key := hfirst _ hmem
      rw [beq_eq_false_iff_ne.mpr (String.ne_of_lt hlt).symm]
      exact ih hrest hmem

theorem mem_insert {entry : String × Json} {key : String} {value : Json} {entries : Entries}
    (h : entry ∈ insert key value entries) : entry = (key, value) ∨ entry ∈ entries := by
  induction entries with
  | nil => exact Or.inl (List.mem_singleton.mp h)
  | cons first rest ih =>
    obtain ⟨k, v⟩ := first
    rw [insert] at h
    split at h
    · exact (List.mem_cons.mp h).imp_right (List.mem_cons_of_mem _)
    · split at h
      · exact List.mem_cons.mp h
      · rcases List.mem_cons.mp h with rfl | hrest
        · exact Or.inr List.mem_cons_self
        · exact (ih hrest).imp_right (List.mem_cons_of_mem _)

theorem lt_of_not_lt {key other : String} (hne : key ≠ other) (h : ¬ key < other) :
    other < key := by
  apply String.not_le.mp
  intro hle
  exact hne (String.le_antisymm hle (String.not_lt.mp h))

theorem Ascending.insert {entries : Entries} (h : Ascending entries) (key : String)
    (value : Json) : Ascending (insert key value entries) := by
  induction entries with
  | nil => exact List.pairwise_singleton _ _
  | cons first rest ih =>
    obtain ⟨k, v⟩ := first
    obtain ⟨hfirst, hrest⟩ := List.pairwise_cons.mp h
    rw [Entries.insert]
    split
    · rename_i heq
      subst heq
      exact List.pairwise_cons.mpr ⟨hfirst, hrest⟩
    · rename_i hne
      split
      · rename_i hlt
        exact List.pairwise_cons_cons_iff_of_trans.mpr ⟨hlt, h⟩
      · rename_i hnot
        refine List.pairwise_cons.mpr ⟨?_, ih hrest⟩
        intro entry hmem
        rcases mem_insert hmem with rfl | hmem
        · exact lt_of_not_lt hne hnot
        · exact hfirst entry hmem

theorem Ascending.get?_head {key : String} {value : Json} {rest : Entries}
    (h : Ascending ((key, value) :: rest)) : get? rest key = none := by
  rw [get?, List.lookup_eq_none_iff]
  intro entry hmem
  exact bne_iff_ne.mpr (String.ne_of_lt ((List.pairwise_cons.mp h).1 entry hmem))

/-- Laid over entries, the changes count where they have a key. The induction is on the changes,
each of which is put in before the next. -/
theorem get?_overlay {changes : Entries} (h : Ascending changes) (entries : Entries)
    (key : String) :
    get? (overlay entries changes) key = (get? changes key).or (get? entries key) := by
  induction changes generalizing entries with
  | nil => rfl
  | cons change rest ih =>
    obtain ⟨k, v⟩ := change
    have hrest := ih (List.pairwise_cons.mp h).2 (insert k v entries)
    change get? (overlay (insert k v entries) rest) key = _
    rw [hrest, get?_insert, get?_cons]
    by_cases hk : key = k
    · subst hk
      rw [if_pos rfl, if_pos rfl, h.get?_head, Option.none_or, Option.some_or]
    · rw [if_neg hk, if_neg hk]

end RecordQuery.Entries
