/-!
# Texts stripped at both ends

A text is what stripping leaves of it between two runs of characters of one class, and a core whose
ends are outside the class is all that is left of it in such a place.
-/

namespace RecordQuery.Text

/-- The characters from the first to the last one outside a class. -/
def strip (p : Char → Bool) (cs : List Char) : List Char :=
  ((cs.dropWhile p).reverse.dropWhile p).reverse

variable {p : Char → Bool} {lead core trail cs : List Char}

theorem dropWhile_of_head (h : ∀ c ∈ cs.head?, p c = false) : cs.dropWhile p = cs := by
  cases cs with
  | nil => rfl
  | cons c cs => exact List.dropWhile_cons_of_neg (by simp [h c rfl])

theorem dropWhile_of_all (h : ∀ c ∈ lead, p c = true) : lead.dropWhile p = [] := by
  have hdrop : (lead ++ []).dropWhile p = [].dropWhile p := List.dropWhile_append_of_pos h
  rwa [List.append_nil] at hdrop

theorem strip_between (hlead : ∀ c ∈ lead, p c = true) (htrail : ∀ c ∈ trail, p c = true)
    (hhead : ∀ c ∈ core.head?, p c = false) (hlast : ∀ c ∈ core.getLast?, p c = false) :
    strip p (lead ++ (core ++ trail)) = core := by
  have hback : ∀ c ∈ trail.reverse, p c = true := fun c hc => htrail c (List.mem_reverse.mp hc)
  rw [strip, List.dropWhile_append_of_pos hlead]
  cases core with
  | nil => rw [List.nil_append, dropWhile_of_all htrail]; rfl
  | cons c cs =>
    have hleft : ((c :: cs) ++ trail).dropWhile p = (c :: cs) ++ trail := dropWhile_of_head hhead
    have hright : ∀ b ∈ (c :: cs).reverse.head?, p b = false := by
      rwa [List.head?_reverse]
    rw [hleft, List.reverse_append, List.dropWhile_append_of_pos hback, dropWhile_of_head hright,
      List.reverse_reverse]

theorem strip_of_ends (hhead : ∀ c ∈ core.head?, p c = false)
    (hlast : ∀ c ∈ core.getLast?, p c = false) : strip p core = core := by
  have h : strip p ([] ++ (core ++ [])) = core :=
    strip_between (List.forall_mem_nil _) (List.forall_mem_nil _) hhead hlast
  rwa [List.nil_append, List.append_nil] at h

theorem exists_strip (p : Char → Bool) (cs : List Char) :
    ∃ lead trail, cs = lead ++ (strip p cs ++ trail) ∧ (∀ c ∈ lead, p c = true) ∧
      ∀ c ∈ trail, p c = true := by
  let rest := cs.dropWhile p
  have hall (l : List Char) : ∀ c ∈ l.takeWhile p, p c = true :=
    List.all_eq_true.mp List.all_takeWhile
  refine ⟨cs.takeWhile p, (rest.reverse.takeWhile p).reverse, ?_, hall cs,
    fun c hc => hall rest.reverse c (List.mem_reverse.mp hc)⟩
  have hrest : strip p cs ++ (rest.reverse.takeWhile p).reverse = rest := by
    rw [strip, ← List.reverse_append, List.takeWhile_append_dropWhile, List.reverse_reverse]
  rw [hrest, List.takeWhile_append_dropWhile]

theorem ends_strip (p : Char → Bool) (cs : List Char) :
    (∀ c ∈ (strip p cs).head?, p c = false) ∧ ∀ c ∈ (strip p cs).getLast?, p c = false := by
  have hdrop (l : List Char) : ∀ c ∈ (l.dropWhile p).head?, p c = false := by
    intro c hc
    have hfirst := List.head?_dropWhile_not p l
    rw [Option.mem_def.mp hc] at hfirst
    simpa using hfirst
  constructor
  · intro c hc
    apply hdrop cs c
    obtain ⟨trail, hrest⟩ := List.dropWhile_suffix p (l := (cs.dropWhile p).reverse)
    have hsplit : cs.dropWhile p = strip p cs ++ trail.reverse := by
      rw [strip, ← List.reverse_append, hrest, List.reverse_reverse]
    rw [hsplit, List.head?_append, Option.mem_def.mp hc]
    rfl
  · intro c hc
    rw [strip, List.getLast?_reverse] at hc
    exact hdrop _ c hc

end RecordQuery.Text
