import RecordQuery.Proofs.Text.Strip
import RecordQuery.Text.Blank

/-!
# Texts between blanks

Every text is its trimmed part between two runs of blanks, and a text that neither begins nor ends
with a blank is all that a trim leaves of it in such a place.
-/

namespace RecordQuery.Text

/-- The list holds nothing but blanks. -/
def IsGap (cs : List Char) : Prop := ∀ c ∈ cs, isBlank c = true

/-- Neither end of the list is a blank. -/
def IsTrimmed (cs : List Char) : Prop :=
  (∀ c ∈ cs.head?, isBlank c = false) ∧ ∀ c ∈ cs.getLast?, isBlank c = false

theorem isTrimmed_of_forall {cs : List Char} (h : ∀ c ∈ cs, isBlank c = false) : IsTrimmed cs :=
  ⟨fun c hc => h c (List.mem_of_mem_head? hc), fun c hc => h c (List.mem_of_mem_getLast? hc)⟩

theorem isGap_nil : IsGap [] := fun _ h => absurd h List.not_mem_nil

theorem not_mem_of_isGap {cs : List Char} {c : Char} (h : IsGap cs) (hc : isBlank c = false) :
    c ∉ cs := by
  intro hmem
  rw [h c hmem] at hc
  exact absurd hc (by decide)

/-- A trim leaves the part of a text between its blanks. -/
theorem trimChars_between {lead core trail : List Char} (hlead : IsGap lead) (htrail : IsGap trail)
    (hcore : IsTrimmed core) : trimChars (lead ++ (core ++ trail)) = core :=
  strip_between hlead htrail hcore.1 hcore.2

/-- Every text is what a trim leaves of it between two gaps. -/
theorem exists_between (cs : List Char) :
    ∃ lead trail, cs = lead ++ (trimChars cs ++ trail) ∧ IsGap lead ∧ IsGap trail :=
  exists_strip isBlank cs

theorem isTrimmed_trimChars (cs : List Char) : IsTrimmed (trimChars cs) := ends_strip isBlank cs

theorem trimChars_of_isTrimmed {cs : List Char} (h : IsTrimmed cs) : trimChars cs = cs :=
  strip_of_ends h.1 h.2

@[simp] theorem trimChars_trimChars (cs : List Char) : trimChars (trimChars cs) = trimChars cs :=
  trimChars_of_isTrimmed (isTrimmed_trimChars cs)

theorem trimChars_of_all {cs : List Char} (h : ∀ c ∈ cs, isBlank c = false) :
    trimChars cs = cs :=
  trimChars_of_isTrimmed (isTrimmed_of_forall h)

theorem mem_of_mem_trimChars {cs : List Char} {c : Char} (h : c ∈ trimChars cs) : c ∈ cs := by
  obtain ⟨lead, trail, hcs, _, _⟩ := exists_between cs
  rw [hcs]
  exact List.mem_append_right lead (List.mem_append_left trail h)

theorem isTrimmed_of_ends {front back : List Char} (middle : List Char) (hfront : IsTrimmed front)
    (hback : IsTrimmed back) (hfront_ne : front ≠ []) (hback_ne : back ≠ []) :
    IsTrimmed (front ++ (middle ++ back)) := by
  obtain ⟨first, rest, rfl⟩ := List.exists_cons_of_ne_nil hfront_ne
  obtain ⟨init, last, rfl⟩ := (List.eq_nil_or_concat back).resolve_left hback_ne
  constructor
  · exact hfront.1
  · intro c hc
    apply hback.2 c
    rw [List.concat_eq_append] at hc ⊢
    rw [← List.append_assoc, ← List.append_assoc, List.getLast?_concat] at hc
    rwa [List.getLast?_concat]

end RecordQuery.Text
