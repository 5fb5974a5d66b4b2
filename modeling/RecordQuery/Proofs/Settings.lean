import RecordQuery.Proofs.Page.Windows
import RecordQuery.Settings

/-!
# Usable settings

The parameters that choose the page and the ordering are never filters. Settings are without a
problem exactly if the default size is a size that a page may have, and then every page has at least
one place.
-/

namespace RecordQuery.Settings

variable (settings : Settings)

theorem pageParam_mem_reservedKeys : settings.pageParam ∈ settings.reservedKeys := by
  have add (keys : List String) (name kept : String) (h : kept = name ∨ kept ∈ keys) :
      kept ∈ if keys.contains name then keys else keys ++ [name] := by
    split
    · rename_i hname
      rcases h with rfl | h
      · exact List.contains_iff_mem.mp hname
      · exact h
    · exact List.mem_append.mpr (h.symm.imp_right List.mem_singleton.mpr)
  unfold reservedKeys
  simp only [List.foldl_cons, List.foldl_nil]
  exact add _ _ _ (Or.inr (add _ _ _ (Or.inr (add _ _ _ (Or.inl rfl)))))

theorem problem?_eq_none_iff : settings.problem? = none ↔
    1 ≤ settings.defaultPageSize ∧ settings.defaultPageSize ≤ settings.maxPageSize := by
  unfold problem?
  split
  · simp only [reduceCtorEq, false_iff]
    omega
  · split
    · simp only [reduceCtorEq, false_iff]
      omega
    · simp only [true_iff]
      omega

theorem size_pos (h : settings.problem? = none) (query : QueryString) :
    1 ≤ (Page.ofQuery query settings.page).size := by
  obtain ⟨hdefault, hmax⟩ := settings.problem?_eq_none_iff.mp h
  have hbounds : 1 ≤ (Page.ofQuery query settings.page).size ∧ _ :=
    Page.size_bounds query hdefault hmax
  exact hbounds.1

end RecordQuery.Settings
