import RecordQuery.FieldErrors
import RecordQuery.Proofs.Json.Entries

/-!
# Complaints in order

Complaints stay in the order of the field names, each name once, as messages are filed. The first
message of a field makes an entry of its own.
-/

namespace RecordQuery.FieldErrors

def Ascending (errors : FieldErrors) : Prop := errors.entries.Pairwise fun a b => a.1 < b.1

variable {errors : FieldErrors} {field message : String} {messages : List String}
variable {entries : List (String × List String)}

theorem mem_addTo {entry : String × List String} (h : entry ∈ addTo field message entries) :
    entry.1 = field ∨ entry ∈ entries := by
  induction entries with
  | nil => exact Or.inl (congrArg Prod.fst (List.mem_singleton.mp h))
  | cons first rest ih =>
    obtain ⟨f, filed⟩ := first
    rw [addTo] at h
    split at h
    · rename_i heq
      exact (List.mem_cons.mp h).imp (fun hentry => (congrArg Prod.fst hentry).trans heq.symm)
        (List.mem_cons_of_mem _)
    · split at h
      · exact (List.mem_cons.mp h).imp_left (congrArg Prod.fst)
      · rcases List.mem_cons.mp h with rfl | hrest
        · exact Or.inr List.mem_cons_self
        · exact (ih hrest).imp_right (List.mem_cons_of_mem _)

theorem pairwise_addTo (h : entries.Pairwise fun a b => a.1 < b.1) :
    (addTo field message entries).Pairwise fun a b => a.1 < b.1 := by
  induction entries with
  | nil => exact List.pairwise_singleton _ _
  | cons first rest ih =>
    obtain ⟨f, filed⟩ := first
    obtain ⟨hfirst, hrest⟩ := List.pairwise_cons.mp h
    rw [addTo]
    split
    · exact List.pairwise_cons.mpr ⟨hfirst, hrest⟩
    · rename_i hne
      split
      · rename_i hlt
        exact List.pairwise_cons_cons_iff_of_trans.mpr ⟨hlt, h⟩
      · rename_i hnot
        refine List.pairwise_cons.mpr ⟨?_, ih hrest⟩
        intro entry hmem
        rcases mem_addTo hmem with heq | hmem
        · exact heq ▸ Entries.lt_of_not_lt hne hnot
        · exact hfirst entry hmem

theorem Ascending.add (h : errors.Ascending) (field message : String) :
    (errors.add field message).Ascending := pairwise_addTo h

theorem perm_addTo (hnew : field ∉ entries.map Prod.fst) :
    (addTo field message entries).Perm ((field, [message]) :: entries) := by
  induction entries with
  | nil => exact List.Perm.refl _
  | cons first rest ih =>
    obtain ⟨f, filed⟩ := first
    obtain ⟨hfirst, hrest⟩ := not_or.mp (mt List.mem_cons.mpr hnew)
    rw [addTo, if_neg hfirst]
    split
    · exact List.Perm.refl _
    · exact ((ih hrest).cons _).trans (.swap _ _ _)

theorem Ascending.get?_eq_some_iff (h : errors.Ascending) :
    errors.get? field = some messages ↔ (field, messages) ∈ errors.entries := by
  constructor
  · intro hfound
    obtain ⟨before, after, heq, _⟩ := List.lookup_eq_some_iff.mp hfound
    rw [heq]
    exact List.mem_append_right _ List.mem_cons_self
  · exact Entries.lookup_of_mem h

theorem eq_empty_of_isEmpty (h : errors.isEmpty = true) : errors = .empty := by
  obtain ⟨entries⟩ := errors
  obtain rfl := List.isEmpty_iff.mp h
  rfl

end RecordQuery.FieldErrors
