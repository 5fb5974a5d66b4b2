import RecordQuery.Proofs.QueryString.Lookup

/-!
# Changing one parameter

`replace` and `erase` touch the pairs of one key. What they do to the pairs, to the last value of
each key and to each other is said here for every query string, however often the key stands in it
and whatever stands between.
-/

namespace RecordQuery.QueryString

variable {key other value : String} {all pairs : List (String × String)}

/-! ## Assigning twice -/

theorem assign_assign (key v w : String) (pairs : List (String × String)) :
    assign key w (assign key v pairs) = assign key w pairs := by
  induction pairs with
  | nil => exact assign_cons_self key w v []
  | cons pair rest ih =>
    obtain ⟨k, x⟩ := pair
    by_cases hk : k = key
    · subst hk
      rw [assign_cons_self, assign_cons_self, assign_cons_self]
    · rw [assign_cons_of_ne hk, assign_cons_of_ne hk, assign_cons_of_ne hk, ih]

/-- Assignments to two keys may change places when one of the keys is there already, so that only
the other one may be put at the end. -/
theorem assign_comm (hne : other ≠ key) (hmem : key ∈ pairs.map Prod.fst) (v w : String) :
    assign key v (assign other w pairs) = assign other w (assign key v pairs) := by
  induction pairs with
  | nil => exact absurd hmem List.not_mem_nil
  | cons pair rest ih =>
    obtain ⟨k, x⟩ := pair
    by_cases hk : k = key
    · subst hk
      rw [assign_cons_of_ne hne.symm, assign_cons_self, assign_cons_self,
        assign_cons_of_ne hne.symm]
    · have hrest : key ∈ rest.map Prod.fst := (List.mem_cons.mp hmem).resolve_left (Ne.symm hk)
      by_cases ho : k = other
      · subst ho
        rw [assign_cons_self, assign_cons_of_ne hk, assign_cons_of_ne hk, assign_cons_self]
      · rw [assign_cons_of_ne ho, assign_cons_of_ne hk, assign_cons_of_ne hk,
          assign_cons_of_ne ho, ih hrest]

theorem mem_keys_assign_self (key value : String) (pairs : List (String × String)) :
    key ∈ (assign key value pairs).map Prod.fst := by
  by_cases h : key ∈ pairs.map Prod.fst
  · rw [keys_assign_of_mem h]
    exact h
  · rw [keys_assign_of_not_mem h]
    exact List.mem_append_right _ (List.mem_singleton_self key)

theorem mem_keys_assign (h : key ∈ pairs.map Prod.fst) (other value : String) :
    key ∈ (assign other value pairs).map Prod.fst := by
  by_cases hother : other ∈ pairs.map Prod.fst
  · rw [keys_assign_of_mem hother]
    exact h
  · rw [keys_assign_of_not_mem hother]
    exact List.mem_append_left _ h

theorem assign_eq_map (hnodup : (pairs.map Prod.fst).Nodup) (hmem : key ∈ pairs.map Prod.fst)
    (value : String) :
    assign key value pairs =
      pairs.map fun pair => if pair.1 = key then (key, value) else pair := by
  induction pairs with
  | nil => exact absurd hmem List.not_mem_nil
  | cons pair rest ih =>
    obtain ⟨k, x⟩ := pair
    obtain ⟨hfirst, hrest⟩ := List.nodup_cons.mp hnodup
    rw [List.map_cons]
    by_cases hk : k = key
    · subst hk
      have hkeep : ∀ pair ∈ rest, (if pair.1 = k then (k, value) else pair) = pair := by
        intro pair hpair
        apply if_neg
        intro heq
        exact hfirst (List.mem_map.mpr ⟨pair, hpair, heq⟩)
      rw [assign_cons_self, if_pos rfl, List.map_congr_left hkeep, List.map_id']
    · have hlater : key ∈ rest.map Prod.fst := (List.mem_cons.mp hmem).resolve_left (Ne.symm hk)
      rw [assign_cons_of_ne hk, if_neg hk, ih hrest hlater]

/-! ## Collecting last values -/

/-- The last values of the pairs laid over those collected before. -/
def collect (all pairs : List (String × String)) : List (String × String) :=
  pairs.foldl (fun all pair => assign pair.1 pair.2 all) all

theorem collect_cons (all rest : List (String × String)) (pair : String × String) :
    collect all (pair :: rest) = collect (assign pair.1 pair.2 all) rest := rfl

/-- Once the key is there, a value that is assigned first and never overwritten is the value that
is assigned last. -/
theorem collect_assign (hmem : key ∈ all.map Prod.fst) (value : String)
    (pairs : List (String × String)) :
    collect (assign key value all) (pairs.filter fun pair => pair.1 != key) =
      assign key value (collect all pairs) := by
  induction pairs generalizing all with
  | nil => rfl
  | cons pair rest ih =>
    obtain ⟨k, x⟩ := pair
    rw [collect_cons]
    by_cases hk : k = key
    · subst hk
      rw [List.filter_cons_of_neg (by simp), ← ih (mem_keys_assign_self k x all), assign_assign]
    · rw [List.filter_cons_of_pos (by simp [hk]), collect_cons, ← assign_comm hk hmem,
        ih (mem_keys_assign hmem k x)]

theorem collect_replacePairs (key value : String) (all pairs : List (String × String)) :
    collect all (replacePairs key value pairs) = assign key value (collect all pairs) := by
  induction pairs generalizing all with
  | nil => rfl
  | cons pair rest ih =>
    obtain ⟨k, x⟩ := pair
    rw [replacePairs]
    split
    · rename_i hk
      subst hk
      rw [collect_cons, collect_cons, ← collect_assign (mem_keys_assign_self k x all),
        assign_assign]
    · rw [collect_cons, collect_cons, ih]

theorem lastValues_replace (q : QueryString) (key value : String) :
    (q.replace key value).lastValues = assign key value q.lastValues :=
  collect_replacePairs key value [] q.pairs

/-! ## Changes after changes -/

theorem replacePairs_replacePairs (key v w : String) (pairs : List (String × String)) :
    replacePairs key w (replacePairs key v pairs) = replacePairs key w pairs := by
  induction pairs with
  | nil => simp [replacePairs]
  | cons pair rest ih =>
    obtain ⟨k, x⟩ := pair
    by_cases hk : k = key
    · subst hk
      simp [replacePairs, List.filter_filter]
    · simp [replacePairs, hk, ih]

theorem replace_replace (q : QueryString) (key v w : String) :
    (q.replace key v).replace key w = q.replace key w :=
  congrArg QueryString.mk (replacePairs_replacePairs key v w q.pairs)

theorem count_pairs_erase (q : QueryString) (key : String) (pair : String × String) :
    (q.erase key).pairs.count pair = if pair.1 = key then 0 else q.pairs.count pair := by
  unfold erase
  split
  · rename_i h
    rw [List.count_eq_zero]
    intro hmem
    exact absurd h (bne_iff_ne.mp (List.mem_filter.mp hmem).2)
  · rename_i h
    exact List.count_filter (bne_iff_ne.mpr h)

theorem lastValues_replace_cases (q : QueryString) (key value : String) :
    (q.replace key value).lastValues =
      if q.contains key then
        q.lastValues.map fun pair => if pair.1 = key then (key, value) else pair
      else q.lastValues ++ [(key, value)] := by
  have hcontains : q.contains key = true ↔ key ∈ q.lastValues.map Prod.fst := by
    rw [mem_keys_lastValues_iff, contains, List.any_eq_true, List.mem_map]
    simp only [beq_iff_eq]
  rw [lastValues_replace]
  split
  · rename_i h
    exact assign_eq_map q.nodup_keys_lastValues (hcontains.mp h) value
  · rename_i h
    exact assign_of_not_mem (mt hcontains.mpr h) value

/-- Replacing and erasing touch one key. A replaced key has the one value, the pairs of the other
keys stay in their order, and among the last values the new one stands where the old one stood, or
at the end. A later replacement or an erasure leaves nothing of an earlier replacement, and an
erasure takes away the pairs of the key and no other one. -/
theorem changes_are_local (q : QueryString) (key v w : String) :
    (q.replace key v).getAll key = [v] ∧
    ((q.replace key v).pairs.filter fun pair => pair.1 != key) =
      q.pairs.filter (fun pair => pair.1 != key) ∧
    (q.replace key v).lastValues =
      (if q.contains key then
        q.lastValues.map fun pair => if pair.1 = key then (key, v) else pair
      else q.lastValues ++ [(key, v)]) ∧
    (q.replace key v).replace key w = q.replace key w ∧
    (q.replace key v).erase key = q.erase key ∧
    (q.erase key).pairs.Sublist q.pairs ∧
    ∀ pair, (q.erase key).pairs.count pair = if pair.1 = key then 0 else q.pairs.count pair := by
  have herase := q.erase_replace key v
  exact ⟨q.getAll_replace_self key v, congrArg QueryString.pairs herase,
    q.lastValues_replace_cases key v, q.replace_replace key v w, herase, List.filter_sublist,
    q.count_pairs_erase key⟩

/-- A key that stands three times is set where it stands first. -/
example : (replace ⟨[("a", "1"), ("b", "2"), ("a", "3"), ("a", "4")]⟩ "a" "5").pairs =
    [("a", "5"), ("b", "2")] := by decide

end RecordQuery.QueryString
