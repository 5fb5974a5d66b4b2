import RecordQuery.Sorting

/-!
# Stable sorting

A stable sort holds the elements of its list, each as often as before. Elements of which neither
precedes the other keep their order, a list in order stays as it is, and the result is in order
wherever the elements can be put in one line.
-/

namespace RecordQuery

variable {α : Type}

theorem insertFromEnd_perm (precedes : α → α → Bool) (x : α) (xs : List α) :
    (insertFromEnd precedes x xs).Perm (x :: xs) := by
  induction xs with
  | nil => exact .refl _
  | cons y rest ih =>
    unfold insertFromEnd
    split
    · exact (ih.cons y).trans (.swap x y rest)
    · exact .refl _

theorem foldl_insertFromEnd_perm (precedes : α → α → Bool) (xs sorted : List α) :
    (xs.foldl (fun sorted x => insertFromEnd precedes x sorted) sorted).Perm (xs ++ sorted) := by
  induction xs generalizing sorted with
  | nil => exact .refl _
  | cons x xs ih =>
    exact (ih _).trans (((insertFromEnd_perm precedes x sorted).append_left xs).trans
      List.perm_middle)

theorem stableSort_perm (precedes : α → α → Bool) (xs : List α) :
    (stableSort precedes xs).Perm xs := by
  have h := foldl_insertFromEnd_perm precedes xs []
  rw [List.append_nil] at h
  exact (List.reverse_perm _).trans h

variable {precedes : α → α → Bool} {x : α} {xs sorted : List α} {P : α → Prop} {p : α → Bool}

/-! ## Stability -/

theorem filter_insertFromEnd_self (hx : p x = true)
    (htied : ∀ y ∈ sorted, p y = true → precedes x y = false) :
    (insertFromEnd precedes x sorted).filter p = x :: sorted.filter p := by
  induction sorted with
  | nil => exact List.filter_cons_of_pos hx
  | cons y rest ih =>
    obtain ⟨hy, hrest⟩ := List.forall_mem_cons.mp htied
    unfold insertFromEnd
    split
    · rename_i hprecedes
      have hother : ¬p y = true := by
        intro hp
        rw [hy hp] at hprecedes
        exact Bool.false_ne_true hprecedes
      rw [List.filter_cons_of_neg hother, List.filter_cons_of_neg hother, ih hrest]
    · exact List.filter_cons_of_pos hx

theorem filter_insertFromEnd_of_not (hx : ¬p x = true) :
    (insertFromEnd precedes x sorted).filter p = sorted.filter p := by
  induction sorted with
  | nil => exact List.filter_cons_of_neg hx
  | cons y rest ih =>
    unfold insertFromEnd
    split
    · rw [List.filter_cons, List.filter_cons, ih]
    · exact List.filter_cons_of_neg hx

theorem filter_foldl_insertFromEnd
    (htied : ∀ a b, p a = true → p b = true → precedes a b = false) (xs sorted : List α) :
    (xs.foldl (fun sorted x => insertFromEnd precedes x sorted) sorted).filter p =
      (xs.filter p).reverse ++ sorted.filter p := by
  induction xs generalizing sorted with
  | nil => rfl
  | cons x xs ih =>
    rw [List.foldl_cons, ih]
    by_cases hx : p x = true
    · rw [filter_insertFromEnd_self hx fun y _ hy => htied x y hx hy, List.filter_cons_of_pos hx,
        List.reverse_cons, List.append_assoc, List.singleton_append]
    · rw [filter_insertFromEnd_of_not hx, List.filter_cons_of_neg hx]

/-- Elements of which none precedes another keep their order. -/
theorem filter_stableSort (htied : ∀ a b, p a = true → p b = true → precedes a b = false)
    (xs : List α) : (stableSort precedes xs).filter p = xs.filter p := by
  rw [stableSort, List.filter_reverse, filter_foldl_insertFromEnd htied, List.filter_nil,
    List.append_nil, List.reverse_reverse]

/-! ## Order -/

/-- Among the elements with the property, the relation is a strict order in which the elements that
neither precede nor follow an element are interchangeable. -/
structure OrdersOn (P : α → Prop) (precedes : α → α → Bool) : Prop where
  asymm : ∀ {a b}, P a → P b → precedes a b = true → precedes b a = false
  trans : ∀ {a b c}, P a → P b → P c → precedes a b = false → precedes b c = false →
    precedes a c = false

theorem pairwise_insertFromEnd (h : OrdersOn P precedes) (hx : P x) (hsorted : ∀ y ∈ sorted, P y)
    (hpairwise : sorted.Pairwise fun a b => precedes a b = false) :
    (insertFromEnd precedes x sorted).Pairwise fun a b => precedes a b = false := by
  induction sorted with
  | nil => exact List.pairwise_singleton _ x
  | cons y rest ih =>
    obtain ⟨hy, hrest⟩ := List.forall_mem_cons.mp hsorted
    obtain ⟨hfirst, htail⟩ := List.pairwise_cons.mp hpairwise
    unfold insertFromEnd
    split
    · rename_i hprecedes
      refine List.pairwise_cons.mpr ⟨?_, ih hrest htail⟩
      intro z hz
      rcases List.mem_cons.mp ((insertFromEnd_perm precedes x rest).mem_iff.mp hz) with rfl | hz
      · exact h.asymm hx hy hprecedes
      · exact hfirst z hz
    · rename_i hprecedes
      have hhead : precedes x y = false := Bool.eq_false_iff.mpr hprecedes
      refine List.pairwise_cons.mpr ⟨?_, hpairwise⟩
      intro z hz
      rcases List.mem_cons.mp hz with rfl | hz
      · exact hhead
      · exact h.trans hx hy (hrest z hz) hhead (hfirst z hz)

theorem pairwise_foldl_insertFromEnd (h : OrdersOn P precedes) (hxs : ∀ x ∈ xs, P x)
    (hsorted : ∀ y ∈ sorted, P y)
    (hpairwise : sorted.Pairwise fun a b => precedes a b = false) :
    (xs.foldl (fun sorted x => insertFromEnd precedes x sorted) sorted).Pairwise
      fun a b => precedes a b = false := by
  induction xs generalizing sorted with
  | nil => exact hpairwise
  | cons x xs ih =>
    obtain ⟨hx, hrest⟩ := List.forall_mem_cons.mp hxs
    apply ih hrest
    · intro y hy
      rcases List.mem_cons.mp ((insertFromEnd_perm precedes x sorted).mem_iff.mp hy) with rfl | hy
      · exact hx
      · exact hsorted y hy
    · exact pairwise_insertFromEnd h hx hsorted hpairwise

theorem pairwise_stableSort (h : OrdersOn (· ∈ xs) precedes) :
    (stableSort precedes xs).Pairwise fun a b => precedes b a = false := by
  rw [stableSort, List.pairwise_reverse]
  exact pairwise_foldl_insertFromEnd h (fun x hx => hx) (fun y hy => absurd hy List.not_mem_nil)
    List.Pairwise.nil

/-- Each element of a list in order is put behind all elements before it. -/
theorem foldl_insertFromEnd_of_pairwise (hxs : xs.Pairwise fun a b => precedes b a = false)
    (hbefore : ∀ y ∈ sorted, ∀ x ∈ xs, precedes x y = false) :
    xs.foldl (fun sorted x => insertFromEnd precedes x sorted) sorted = xs.reverse ++ sorted := by
  induction xs generalizing sorted with
  | nil => rfl
  | cons x xs ih =>
    obtain ⟨hfirst, hrest⟩ := List.pairwise_cons.mp hxs
    have hinsert : insertFromEnd precedes x sorted = x :: sorted := by
      cases sorted with
      | nil => rfl
      | cons y rest =>
        have hy : precedes x y = false := hbefore y List.mem_cons_self x List.mem_cons_self
        rw [insertFromEnd, hy, if_neg Bool.false_ne_true]
    rw [List.foldl_cons, hinsert, ih hrest, List.reverse_cons, List.append_assoc,
      List.singleton_append]
    intro y hy z hz
    rcases List.mem_cons.mp hy with rfl | hy
    · exact hfirst z hz
    · exact hbefore y hy z (List.mem_cons_of_mem x hz)

theorem stableSort_of_pairwise (h : xs.Pairwise fun a b => precedes b a = false) :
    stableSort precedes xs = xs := by
  rw [stableSort, foldl_insertFromEnd_of_pairwise h fun y hy => absurd hy List.not_mem_nil,
    List.append_nil, List.reverse_reverse]

/-! ## Sorting by keys -/

theorem sortByKeys_eq_stableSort (keys : List SortKey) (view : α → Record) (xs : List α) :
    sortByKeys keys view xs =
      stableSort (fun a b => SortKey.compareRecords keys (view a) (view b) == .lt) xs := by
  cases keys with
  | nil =>
    refine (stableSort_of_pairwise ?_).symm
    exact List.pairwise_of_forall fun a b => rfl
  | cons key keys => rfl

theorem sortByKeys_perm (keys : List SortKey) (view : α → Record) (xs : List α) :
    (sortByKeys keys view xs).Perm xs := by
  rw [sortByKeys_eq_stableSort]
  exact stableSort_perm _ xs

end RecordQuery
