import Mathlib.Data.List.Basic
import Mathlib.Data.List.Induction
import RecordQuery.QueryString

/-!
# Looking up parameters after a change

`erase` and `replace` change what is said under one key. Two query strings that are equal once a
key is erased say the same under every other key. The last values of all keys are the values that
`get?` finds, each key once.
-/

namespace RecordQuery.QueryString

/-! ## One value -/

theorem get?_erase_self (q : QueryString) (key : String) : (q.erase key).get? key = none := by
  simp [get?, erase]

theorem get?_erase_of_ne (q : QueryString) {key other : String} (h : other ≠ key) :
    (q.erase key).get? other = q.get? other := by
  unfold get? erase
  rw [← List.filter_reverse, List.find?_filter]
  congr 2
  funext pair
  by_cases hp : pair.1 = other <;> simp [hp, h]

theorem erase_replace (q : QueryString) (key value : String) :
    (q.replace key value).erase key = q.erase key := by
  obtain ⟨pairs⟩ := q
  simp only [replace, erase, mk.injEq]
  induction pairs with
  | nil => simp [replacePairs]
  | cons pair rest ih =>
    obtain ⟨k, v⟩ := pair
    unfold replacePairs
    split
    · rename_i h
      simp [h, List.filter_filter]
    · rename_i h
      simp [h, ih]

theorem filter_replacePairs_self (key value : String) (pairs : List (String × String)) :
    (replacePairs key value pairs).filter (fun pair => pair.1 == key) = [(key, value)] := by
  induction pairs with
  | nil => simp [replacePairs]
  | cons pair rest ih =>
    obtain ⟨k, v⟩ := pair
    unfold replacePairs
    split
    · simp [List.filter_filter]
    · rename_i h
      simp [h, ih]

theorem getAll_replace_self (q : QueryString) (key value : String) :
    (q.replace key value).getAll key = [value] := by
  rw [getAll, replace, filter_replacePairs_self, List.map_cons, List.map_nil]

theorem get?_eq_getLast?_getAll (q : QueryString) (key : String) :
    q.get? key = (q.getAll key).getLast? := by
  unfold get? getAll
  rw [List.getLast?_map, List.getLast?_eq_head?_reverse, ← List.filter_reverse,
    List.head?_filter]

theorem get?_replace_self (q : QueryString) (key value : String) :
    (q.replace key value).get? key = some value := by
  rw [get?_eq_getLast?_getAll, getAll_replace_self]
  rfl

/-! ## Equality apart from one key -/

section Apart

variable {q r : QueryString} {key : String}

theorem getAll_eq_of_erase_eq (h : q.erase key = r.erase key) {other : String}
    (hother : other ≠ key) : q.getAll other = r.getAll other := by
  have hq := getAll_erase q key other
  have hr := getAll_erase r key other
  rw [if_neg hother] at hq hr
  rw [← hq, ← hr, h]

theorem get?_eq_of_erase_eq (h : q.erase key = r.erase key) {other : String}
    (hother : other ≠ key) : q.get? other = r.get? other := by
  rw [← get?_erase_of_ne q hother, ← get?_erase_of_ne r hother, h]

end Apart

/-! ## The last value of each key -/

theorem assign_cons_self (key value v : String) (rest : List (String × String)) :
    assign key value ((key, v) :: rest) = (key, value) :: rest := if_pos rfl

theorem assign_cons_of_ne {key k : String} (h : k ≠ key) (value v : String)
    (rest : List (String × String)) :
    assign key value ((k, v) :: rest) = (k, v) :: assign key value rest := if_neg h

theorem filter_assign_self (key value : String) (pairs : List (String × String)) :
    (assign key value pairs).filter (fun pair => pair.1 != key) =
      pairs.filter fun pair => pair.1 != key := by
  induction pairs with
  | nil => simp [assign]
  | cons pair rest ih =>
    obtain ⟨k, v⟩ := pair
    by_cases hk : k = key
    · subst hk
      simp [assign_cons_self]
    · simp [assign_cons_of_ne hk, hk, ih]

theorem filter_assign_of_ne {key other : String} (h : other ≠ key) (value : String)
    (pairs : List (String × String)) :
    (assign other value pairs).filter (fun pair => pair.1 != key) =
      assign other value (pairs.filter fun pair => pair.1 != key) := by
  induction pairs with
  | nil => simp [assign, h]
  | cons pair rest ih =>
    obtain ⟨k, v⟩ := pair
    by_cases hk : k = other
    · subst hk
      simp [assign_cons_self, h]
    · rw [assign_cons_of_ne hk]
      by_cases hkey : k = key
      · simp [hkey, ih]
      · simp [hkey, assign_cons_of_ne hk, ih]

theorem lastValues_erase (q : QueryString) (key : String) :
    (q.erase key).lastValues = q.lastValues.filter fun pair => pair.1 != key := by
  obtain ⟨pairs⟩ := q
  have collect : ∀ all : List (String × String),
      (pairs.filter fun pair => pair.1 != key).foldl
          (fun all pair => assign pair.1 pair.2 all) (all.filter fun pair => pair.1 != key) =
        (pairs.foldl (fun all pair => assign pair.1 pair.2 all) all).filter
          fun pair => pair.1 != key := by
    induction pairs with
    | nil => exact fun _ => rfl
    | cons pair rest ih =>
      intro all
      obtain ⟨k, v⟩ := pair
      rw [List.foldl_cons, ← ih]
      by_cases hk : k = key
      · subst hk
        rw [List.filter_cons_of_neg (by simp), filter_assign_self]
      · rw [List.filter_cons_of_pos (by simp [hk]), List.foldl_cons, filter_assign_of_ne hk]
  exact collect []

/-! ## Last values and looked up values -/

theorem lookup_cons (k key value : String) (rest : List (String × String)) :
    List.lookup key ((k, value) :: rest) = if key = k then some value else rest.lookup key := by
  by_cases h : key = k
  · simp [h]
  · simp [List.lookup_cons, beq_eq_false_iff_ne.mpr h, h]

theorem lookup_assign (key value other : String) (pairs : List (String × String)) :
    (assign key value pairs).lookup other =
      if other = key then some value else pairs.lookup other := by
  induction pairs with
  | nil => exact lookup_cons key other value []
  | cons pair rest ih =>
    obtain ⟨k, v⟩ := pair
    by_cases hk : k = key
    · subst hk
      rw [assign_cons_self, lookup_cons, lookup_cons]
      split <;> rfl
    · rw [assign_cons_of_ne hk, lookup_cons, lookup_cons, ih]
      by_cases ho : other = k
      · subst ho
        rw [if_pos rfl, if_neg hk, if_pos rfl]
      · rw [if_neg ho, if_neg ho]

theorem keys_assign_of_mem {key : String} {pairs : List (String × String)}
    (h : key ∈ pairs.map Prod.fst) (value : String) :
    (assign key value pairs).map Prod.fst = pairs.map Prod.fst := by
  induction pairs with
  | nil => exact absurd h List.not_mem_nil
  | cons pair rest ih =>
    obtain ⟨k, v⟩ := pair
    by_cases hk : k = key
    · subst hk
      rw [assign_cons_self, List.map_cons, List.map_cons]
    · have hrest : key ∈ rest.map Prod.fst :=
        (List.mem_cons.mp h).resolve_left (Ne.symm hk)
      rw [assign_cons_of_ne hk, List.map_cons, List.map_cons, ih hrest]

theorem assign_of_not_mem {key : String} {pairs : List (String × String)}
    (h : key ∉ pairs.map Prod.fst) (value : String) :
    assign key value pairs = pairs ++ [(key, value)] := by
  induction pairs with
  | nil => rfl
  | cons pair rest ih =>
    obtain ⟨k, v⟩ := pair
    have hk : key ≠ k := List.ne_of_not_mem_cons h
    have hrest : key ∉ rest.map Prod.fst := List.not_mem_of_not_mem_cons h
    rw [assign_cons_of_ne hk.symm, ih hrest, List.cons_append]

theorem keys_assign_of_not_mem {key : String} {pairs : List (String × String)}
    (h : key ∉ pairs.map Prod.fst) (value : String) :
    (assign key value pairs).map Prod.fst = pairs.map Prod.fst ++ [key] := by
  rw [assign_of_not_mem h, List.map_append]
  rfl

theorem lastValues_concat (pairs : List (String × String)) (pair : String × String) :
    lastValues ⟨pairs ++ [pair]⟩ = assign pair.1 pair.2 (lastValues ⟨pairs⟩) := by
  simp only [lastValues, List.foldl_append, List.foldl_cons, List.foldl_nil]

theorem get?_concat (pairs : List (String × String)) (pair : String × String) (key : String) :
    get? ⟨pairs ++ [pair]⟩ key = if key = pair.1 then some pair.2 else get? ⟨pairs⟩ key := by
  by_cases h : key = pair.1
  · simp [get?, h]
  · simp [get?, h, Ne.symm h]

theorem mem_keys_lastValues_iff {q : QueryString} {key : String} :
    key ∈ q.lastValues.map Prod.fst ↔ key ∈ q.pairs.map Prod.fst := by
  obtain ⟨pairs⟩ := q
  induction pairs using List.reverseRecOn with
  | nil => rfl
  | append_singleton pairs pair ih =>
    rw [lastValues_concat, List.map_append, List.mem_append, List.map_singleton,
      List.mem_singleton, ← ih]
    by_cases h : pair.1 ∈ (lastValues ⟨pairs⟩).map Prod.fst
    · rw [keys_assign_of_mem h]
      refine ⟨Or.inl, ?_⟩
      rintro (hkey | rfl)
      · exact hkey
      · exact h
    · rw [keys_assign_of_not_mem h, List.mem_append, List.mem_singleton]

/-- The keys stand in the order in which they are first written. -/
theorem pairwise_keys_lastValues (q : QueryString) :
    (q.lastValues.map Prod.fst).Pairwise fun a b =>
      (q.pairs.map Prod.fst).idxOf a < (q.pairs.map Prod.fst).idxOf b := by
  obtain ⟨pairs⟩ := q
  induction pairs using List.reverseRecOn with
  | nil => exact List.Pairwise.nil
  | append_singleton pairs pair ih =>
    have hwritten {key : String} (hkey : key ∈ (lastValues ⟨pairs⟩).map Prod.fst) :
        key ∈ pairs.map Prod.fst := mem_keys_lastValues_iff.mp hkey
    have hkeep : ((lastValues ⟨pairs⟩).map Prod.fst).Pairwise fun a b =>
        ((pairs ++ [pair]).map Prod.fst).idxOf a < ((pairs ++ [pair]).map Prod.fst).idxOf b := by
      refine ih.imp_of_mem ?_
      intro a b ha hb hlt
      rw [List.map_append, List.idxOf_append_of_mem (hwritten ha),
        List.idxOf_append_of_mem (hwritten hb)]
      exact hlt
    rw [lastValues_concat]
    by_cases h : pair.1 ∈ (lastValues ⟨pairs⟩).map Prod.fst
    · rw [keys_assign_of_mem h]
      exact hkeep
    · have hnew : pair.1 ∉ pairs.map Prod.fst := mt mem_keys_lastValues_iff.mpr h
      rw [keys_assign_of_not_mem h, List.pairwise_append]
      refine ⟨hkeep, List.pairwise_singleton _ _, ?_⟩
      intro key hkey last hlast
      obtain rfl : last = pair.1 := List.mem_singleton.mp hlast
      rw [List.map_append, List.idxOf_append_of_mem (hwritten hkey),
        List.idxOf_append_of_notMem hnew]
      exact Nat.lt_add_right _ (List.idxOf_lt_length_iff.mpr (hwritten hkey))

theorem nodup_keys_lastValues (q : QueryString) : (q.lastValues.map Prod.fst).Nodup := by
  refine q.pairwise_keys_lastValues.imp ?_
  rintro key _ hlt rfl
  exact absurd hlt (Nat.lt_irrefl _)

theorem lookup_lastValues (q : QueryString) (key : String) :
    q.lastValues.lookup key = q.get? key := by
  obtain ⟨pairs⟩ := q
  induction pairs using List.reverseRecOn with
  | nil => rfl
  | append_singleton pairs pair ih => rw [lastValues_concat, lookup_assign, get?_concat, ih]

/-- The last values are the values that are found under their keys. -/
theorem mem_lastValues_iff {q : QueryString} {key value : String} :
    (key, value) ∈ q.lastValues ↔ q.get? key = some value := by
  rw [← lookup_lastValues, List.lookup_eq_some_iff]
  constructor
  · intro h
    obtain ⟨before, after, hsplit⟩ := List.append_of_mem h
    have hnodup := q.nodup_keys_lastValues
    rw [hsplit, List.map_append, List.map_cons] at hnodup
    refine ⟨before, after, hsplit, fun pair hpair => ?_⟩
    have hne : pair.1 ≠ key :=
      (List.nodup_append.mp hnodup).2.2 pair.1 (List.mem_map_of_mem hpair) key
        List.mem_cons_self
    exact bne_iff_ne.mpr hne.symm
  · rintro ⟨before, after, hsplit, _⟩
    rw [hsplit]
    exact List.mem_append_right before List.mem_cons_self

end RecordQuery.QueryString
