import RecordQuery.Text.Folding
import RecordQuery.Text.Lower

/-!
# Lowercase text in its surroundings

The lowercase form of a part of a text depends on the text around it in one way: a capital sigma has
another form where it ends a word. A part that is cut out of a text keeps its lowercase form unless
the cut changes which of its sigmas do.
-/

namespace RecordQuery.Text

/-- The lowercase form of a character between the characters before it, in reverse, and those behind
it. -/
def lowerAt (before : List Char) (c : Char) (after : List Char) : List Char :=
  if c.toNat = 0x130 then ['i', Char.ofNat 0x307]
  else if c.toNat = 0x3A3 then [Char.ofNat (if endsWord before after then 0x3C2 else 0x3C3)]
  else [lowerChar c]

/-- The lowercase form of a part between the characters before it, in reverse, and those behind
it. -/
def lowerWithin (before : List Char) : (part after : List Char) → List Char
  | [], _ => []
  | c :: part, after => lowerAt before c (part ++ after) ++ lowerWithin (c :: before) part after

/-- A capital sigma of the part ends a word in one of two texts and not in the other: in the part
alone, and in the text made up of `before`, the part and `after`. -/
def SigmaDiffers (before part after : List Char) : Prop :=
  ∃ front back, part = front ++ 'Σ' :: back ∧
    endsWord front.reverse back ≠ endsWord (before ++ front).reverse (back ++ after)

variable {before before' part after after' front back cs : List Char} {c : Char}

theorem lowerFrom_cons (before : List Char) (c : Char) (rest : List Char) :
    lowerFrom before (c :: rest) = lowerAt before c rest ++ lowerFrom (c :: before) rest := rfl

theorem lowerFrom_append (before part after : List Char) :
    lowerFrom before (part ++ after) =
      lowerWithin before part after ++ lowerFrom (part.reverse ++ before) after := by
  induction part generalizing before with
  | nil => rfl
  | cons c part ih =>
    rw [List.cons_append, lowerFrom_cons, ih, lowerWithin, List.append_assoc, List.reverse_cons,
      List.append_assoc, List.singleton_append]

theorem lowerWithin_nil (before part : List Char) :
    lowerWithin before part [] = lowerFrom before part := by
  have h := lowerFrom_append before part []
  rw [List.append_nil, lowerFrom, List.append_nil] at h
  exact h.symm

theorem lowerChars_append (front part after : List Char) :
    lowerChars (front ++ (part ++ after)) =
      lowerWithin [] front (part ++ after) ++
        (lowerWithin front.reverse part after ++ lowerFrom (part.reverse ++ front.reverse) after) := by
  rw [lowerChars, lowerFrom_append, lowerFrom_append, List.append_nil]

/-! ## Lengths -/

theorem length_lowerAt (before : List Char) (c : Char) (after : List Char) :
    (lowerAt before c after).length = if c.toNat = 0x130 then 2 else 1 := by
  unfold lowerAt
  split
  · rfl
  · split <;> rfl

/-- How long the lowercase form of a part is does not depend on its surroundings. -/
theorem length_lowerWithin (before part after : List Char) :
    (lowerWithin before part after).length = (lowerChars part).length := by
  suffices h : ∀ before before' after after', (lowerWithin before part after).length =
      (lowerWithin before' part after').length by
    rw [lowerChars, ← lowerWithin_nil]
    exact h before [] after []
  intro before before' after after'
  induction part generalizing before before' with
  | nil => rfl
  | cons c part ih =>
    simp only [lowerWithin, List.length_append, length_lowerAt]
    rw [ih (c :: before) (c :: before')]

/-! ## Surroundings -/

theorem lowerAt_eq_iff :
    lowerAt before c after = lowerAt before' c after' ↔
      (c = 'Σ' → endsWord before after = endsWord before' after') := by
  by_cases hc : c = 'Σ'
  · subst hc
    have hsigma (before after : List Char) : lowerAt before 'Σ' after =
        [Char.ofNat (if endsWord before after then 0x3C2 else 0x3C3)] := rfl
    rw [hsigma, hsigma]
    cases endsWord before after <;> cases endsWord before' after' <;> decide
  · have hnat : c.toNat ≠ 0x3A3 := fun h => hc (Char.toNat_inj.mp h)
    simp [lowerAt, hc, hnat]

theorem lowerWithin_eq_iff :
    lowerWithin before part after = lowerWithin before' part after' ↔
      ∀ front back, part = front ++ 'Σ' :: back →
        endsWord (front.reverse ++ before) (back ++ after) =
          endsWord (front.reverse ++ before') (back ++ after') := by
  induction part generalizing before before' with
  | nil => simp [lowerWithin]
  | cons c part ih =>
    have hlength : (lowerAt before c (part ++ after)).length =
        (lowerAt before' c (part ++ after')).length := by
      rw [length_lowerAt, length_lowerAt]
    rw [lowerWithin, lowerWithin]
    constructor
    · intro h front back hpart
      obtain ⟨hfirst, hrest⟩ := List.append_inj h hlength
      cases front with
      | nil =>
        obtain ⟨rfl, rfl⟩ := List.cons.inj hpart
        exact lowerAt_eq_iff.mp hfirst rfl
      | cons d front =>
        obtain ⟨rfl, rfl⟩ := List.cons.inj hpart
        simpa using ih.mp hrest front back rfl
    · intro h
      have hfirst : lowerAt before c (part ++ after) = lowerAt before' c (part ++ after') := by
        rw [lowerAt_eq_iff]
        rintro rfl
        exact h [] part rfl
      have hrest : lowerWithin (c :: before) part after = lowerWithin (c :: before') part after' := by
        rw [ih]
        rintro front back rfl
        simpa using h (c :: front) back rfl
      rw [hfirst, hrest]

/-- A part has the lowercase form in a text that it has alone exactly if its sigmas do. -/
theorem lowerWithin_eq_lowerChars_iff :
    lowerWithin before.reverse part after = lowerChars part ↔ ¬SigmaDiffers before part after := by
  rw [lowerChars, ← lowerWithin_nil, lowerWithin_eq_iff, SigmaDiffers]
  simp only [List.append_nil, List.reverse_append, not_exists, not_and, Decidable.not_not]
  exact forall_congr' fun front => forall_congr' fun back => imp_congr_right fun _ => eq_comm

/-! ## ASCII -/

def IsAscii (cs : List Char) : Prop := ∀ c ∈ cs, c.toNat < 0x80

instance (cs : List Char) : Decidable (IsAscii cs) :=
  List.decidableBAll (fun c : Char => c.toNat < 0x80) cs

theorem lowerChar_of_ascii (h : c.toNat < 0x80) : lowerChar c = foldChar c := by
  simp only [lowerChar, foldChar, h, ↓reduceIte]

theorem IsAscii.lowerChars_eq (h : IsAscii cs) : lowerChars cs = cs.map foldChar := by
  rw [lowerChars]
  generalize ([] : List Char) = before
  induction cs generalizing before with
  | nil => rfl
  | cons c cs ih =>
    obtain ⟨hc, hcs⟩ := List.forall_mem_cons.mp h
    have hdotted : c.toNat ≠ 0x130 := by omega
    have hsigma : c.toNat ≠ 0x3A3 := by omega
    rw [lowerFrom_cons, ih hcs, List.map_cons]
    simp only [lowerAt, hdotted, hsigma, ↓reduceIte, lowerChar_of_ascii hc, List.singleton_append]

end RecordQuery.Text
