import RecordQuery.Folder

/-!
# Texts that are written and found

Where a path leads does not depend on the texts in the folder, so that a text that has been written
under a path is found under it. The one place that keeps no text is the file that is always empty.
-/

namespace RecordQuery.Folder

variable {folder : Folder} {path text : String}

theorem follow_of_ok {names : List String} {location place : Location}
    (h : folder.follow location names = .ok place) (other : Folder) :
    other.follow location names = .ok place := by
  induction names generalizing location with
  | nil => exact h
  | cons name rest ih =>
    rw [follow] at h ⊢
    split at h
    · exact absurd h (by simp)
    · rename_i hdirectory
      rw [if_neg hdirectory]
      split at h
      · rename_i hstay
        rw [if_pos hstay]
        exact ih h
      · rename_i hstay
        rw [if_neg hstay]
        split at h
        · rename_i hup
          rw [if_pos hup]
          exact ih h
        · rename_i hup
          rw [if_neg hup]
          split at h
          · exact absurd h (by simp)
          · rename_i hlong
            rw [if_neg hlong]
            exact ih h

theorem locate_of_ok {location : Location} (h : folder.locate path = .ok location)
    (other : Folder) : other.locate path = .ok location := by
  unfold locate at h ⊢
  dsimp only at h ⊢
  split at h
  · exact absurd h (by simp)
  · rename_i hzero
    rw [if_neg hzero]
    split at h
    · exact absurd h (by simp)
    · rename_i hempty
      rw [if_neg hempty]
      split at h
      · exact absurd h (by simp)
      · rename_i hlong
        rw [if_neg hlong]
        exact follow_of_ok h other

theorem write_eq_ok {after : Folder} (h : folder.write path text = .ok after) :
    ∃ location, folder.locate path = .ok location ∧ location.isDirectory = false ∧
      after = folder.writeAt location text := by
  unfold write at h
  split at h
  · exact absurd h (by simp)
  · rename_i location hlocate
    split at h
    · exact absurd h (by simp)
    · rename_i hfile
      exact ⟨location, hlocate, Bool.eq_false_iff.mpr hfile, (Except.ok.inj h).symm⟩

theorem find_of_locate {location : Location} (hlocate : folder.locate path = .ok location)
    (hfile : location.isDirectory = false) {text : String}
    (htext : folder.textAt? location = some text) : folder.find path = .ok text := by
  simp only [find, hlocate, hfile, htext, Bool.false_eq_true, if_false]

/-- A text that has been written is found, unless an empty text was found before. -/
theorem find_of_write {after : Folder} (h : folder.write path text = .ok after)
    (hkept : folder.find path ≠ .ok "") : after.find path = .ok text := by
  obtain ⟨location, hlocate, hfile, rfl⟩ := write_eq_ok h
  have hdevice : location ≠ Location.emptyDevice := by
    intro hdevice
    exact hkept (find_of_locate hlocate hfile (if_pos hdevice))
  refine find_of_locate (locate_of_ok hlocate _) hfile ?_
  rw [textAt?_writeAt folder location location text hdevice, if_pos rfl]

end RecordQuery.Folder
