import RecordQuery.Proofs.Numeric.NumberShape

/-!
# Decimals in print

A decimal is printed with as many places behind the point as its scale says, and it is read back
with them. The sign of a zero is lost on the way, which the order of decimals does not see.
-/

namespace RecordQuery

namespace Decimal

variable {negative seen : Bool} {size scale : Nat} {c : Char} {whole fraction rest : List Char}

/-! ## Printing -/

/-- A printed decimal is a sign or none, digits, and a point with one digit for each place. -/
theorem exists_chars (d : Decimal) :
    ∃ whole fraction, (∀ c ∈ whole ++ fraction, c.isDigit = true) ∧ whole ≠ [] ∧
      fraction.length = d.scale ∧ Digits.value (whole ++ fraction) = d.coefficient ∧
      d.chars = (if d.negative then ['-'] else []) ++
        (whole ++ if d.scale = 0 then [] else '.' :: fraction) := by
  let digits := Digits.ofNat d.coefficient
  have hjoin := Digits.wholePart_append_fractionPart d.scale digits
  refine ⟨Digits.wholePart d.scale digits, Digits.fractionPart d.scale digits, ?_,
    Digits.wholePart_ne_nil _ _, Digits.length_fractionPart _ _, ?_, ?_⟩
  · rw [hjoin]
    exact Digits.isDigit_of_mem_padded fun c hc => Digits.isDigit_of_mem_ofNat hc
  · rw [hjoin, Digits.value_padded, Digits.value_ofNat]
  · have hchars : d.chars = (if d.negative then ['-'] else []) ++
        if d.scale = 0 then Digits.padded d.scale digits
        else Digits.wholePart d.scale digits ++ '.' :: Digits.fractionPart d.scale digits := by
      unfold chars
      dsimp only
      split <;> rfl
    rw [hchars, ← hjoin]
    by_cases hscale : d.scale = 0
    · have hnone : Digits.fractionPart d.scale digits = [] :=
        List.eq_nil_of_length_eq_zero ((Digits.length_fractionPart _ _).trans hscale)
      rw [if_pos hscale, if_pos hscale, hnone]
    · rw [if_neg hscale, if_neg hscale]

/-! ## Reading -/

theorem readDigits?_digit (hc : c.isDigit = true)
    (hsize : 10 * size + (c.toNat - '0'.toNat) < coefficientBound) :
    readDigits? negative false seen size 0 (c :: rest) =
      readDigits? negative false true (10 * size + (c.toNat - '0'.toNat)) 0 rest := by
  rw [Nat.mul_comm] at hsize ⊢
  rw [readDigits?, if_pos hc]
  simp only [Bool.false_eq_true, if_false, Bool.false_and]
  rw [if_neg (Nat.not_le.mpr hsize)]

theorem readDigits?_digits (hdigits : ∀ c ∈ whole, c.isDigit = true)
    (hsize : Nat.ofDigitChars 10 whole size < coefficientBound) :
    readDigits? negative false true size 0 (whole ++ rest) =
      readDigits? negative false true (Nat.ofDigitChars 10 whole size) 0 rest := by
  induction whole generalizing size with
  | nil => rfl
  | cons c whole ih =>
    obtain ⟨hc, hwhole⟩ := List.forall_mem_cons.mp hdigits
    rw [Nat.ofDigitChars_cons] at hsize ⊢
    have hstep := Nat.lt_of_le_of_lt (Digits.le_ofDigitChars whole _) hsize
    rw [List.cons_append, readDigits?_digit hc hstep, ih hwhole hsize]

/-- Behind the point, digits that fit are read one place each. -/
theorem readDigits?_places (hdigits : ∀ c ∈ fraction, c.isDigit = true)
    (hsize : Nat.ofDigitChars 10 fraction size < coefficientBound)
    (hscale : scale + fraction.length ≤ 28) :
    readDigits? negative true true size scale fraction =
      ofDigits? negative (Nat.ofDigitChars 10 fraction size) (scale + fraction.length) := by
  induction fraction generalizing size scale with
  | nil => rfl
  | cons c fraction ih =>
    obtain ⟨hc, hfraction⟩ := List.forall_mem_cons.mp hdigits
    rw [Nat.ofDigitChars_cons] at hsize ⊢
    have hstep := Nat.lt_of_le_of_lt (Digits.le_ofDigitChars fraction _) hsize
    rw [List.length_cons] at hscale ⊢
    rw [Nat.mul_comm] at hsize hstep ⊢
    rw [readDigits?, if_pos hc]
    simp only [if_true, Bool.true_and]
    rw [if_neg (Nat.not_le.mpr hstep)]
    by_cases hlast : 28 ≤ scale + 1
    · obtain rfl : fraction = [] := List.length_eq_zero_iff.mp (by omega)
      rw [if_pos (decide_eq_true hlast)]
      simp [Nat.ofDigitChars_nil]
    · rw [if_neg (by simpa using hlast), ih hfraction hsize (by omega)]
      congr 1
      omega

theorem readDigits?_chars (negative : Bool) (hdigits : ∀ c ∈ whole ++ fraction, c.isDigit = true)
    (hne : whole ≠ []) (hsize : Digits.value (whole ++ fraction) < coefficientBound)
    (hscale : fraction.length ≤ 28) :
    readDigits? negative false false 0 0
        (whole ++ if fraction.length = 0 then [] else '.' :: fraction) =
      ofDigits? negative (Digits.value (whole ++ fraction)) fraction.length := by
  obtain ⟨hwhole, hfraction⟩ := List.forall_mem_append.mp hdigits
  rw [Digits.value_append] at hsize ⊢
  have hfits : Digits.value whole < coefficientBound :=
    Nat.lt_of_le_of_lt (Digits.le_ofDigitChars fraction _) hsize
  have hread (rest : List Char) : readDigits? negative false false 0 0 (whole ++ rest) =
      readDigits? negative false true (Digits.value whole) 0 rest := by
    obtain ⟨first, more, rfl⟩ := List.exists_cons_of_ne_nil hne
    obtain ⟨hfirst, hmore⟩ := List.forall_mem_cons.mp hwhole
    rw [Digits.value, Nat.ofDigitChars_cons] at hfits ⊢
    have hstep := Nat.lt_of_le_of_lt (Digits.le_ofDigitChars more _) hfits
    rw [List.cons_append, readDigits?_digit hfirst hstep, readDigits?_digits hmore hfits]
  rw [hread]
  by_cases hnone : fraction.length = 0
  · obtain rfl := List.length_eq_zero_iff.mp hnone
    rfl
  · rw [if_neg hnone, readDigits?, if_neg (by decide), if_pos ⟨rfl, rfl⟩,
      readDigits?_places hfraction hsize (by omega), Nat.zero_add]

/-- The decimal as it is read back: a zero has no sign. -/
def withoutZeroSign (d : Decimal) : Decimal :=
  ⟨d.negative && d.coefficient != 0, d.coefficient, d.scale, d.coefficient_lt, d.scale_le⟩

theorem ofDigits?_parts (d : Decimal) :
    ofDigits? d.negative d.coefficient d.scale = some d.withoutZeroSign := by
  rw [ofDigits?, ofParts?, dif_pos ⟨d.coefficient_lt, d.scale_le⟩]
  rfl

theorem readPlain?_chars (d : Decimal) : readPlain? d.chars = some d.withoutZeroSign := by
  obtain ⟨whole, fraction, hdigits, hne, hlength, hvalue, hchars⟩ := exists_chars d
  have hread := readDigits?_chars d.negative hdigits hne
    (hvalue ▸ d.coefficient_lt) (hlength ▸ d.scale_le)
  rw [hvalue, hlength] at hread
  rw [hchars, ← ofDigits?_parts, ← hread]
  cases hsign : d.negative with
  | true => rfl
  | false =>
    obtain ⟨first, more, rfl⟩ := List.exists_cons_of_ne_nil hne
    have hfirst : first.isDigit = true := hdigits first List.mem_cons_self
    rw [if_neg Bool.false_ne_true, List.nil_append, List.cons_append]
    unfold readPlain?
    split
    · rename_i heq
      obtain ⟨rfl, _⟩ := List.cons.inj heq
      exact absurd hfirst (by decide)
    · rename_i heq
      obtain ⟨rfl, _⟩ := List.cons.inj heq
      exact absurd hfirst (by decide)
    · rfl

/-- A printed decimal is read with its own digits and its own scale. -/
theorem read?_chars (d : Decimal) : read? d.chars = some d.withoutZeroSign := by
  rw [read?, readPlain?_chars]
  rfl

theorem head?_chars_eq_minus_iff (d : Decimal) : d.chars.head? = some '-' ↔ d.negative = true := by
  obtain ⟨whole, fraction, hdigits, hne, _, _, hchars⟩ := exists_chars d
  obtain ⟨first, more, rfl⟩ := List.exists_cons_of_ne_nil hne
  have hfirst : first ≠ '-' := by
    rintro rfl
    exact absurd (hdigits '-' List.mem_cons_self) (by decide)
  rw [hchars]
  cases d.negative <;> simp [hfirst]

/-- The text of a decimal shows its sign, its coefficient and its scale. -/
theorem chars_injective : Function.Injective chars := by
  intro a b h
  have hread : a.withoutZeroSign = b.withoutZeroSign := by
    rw [← Option.some.injEq, ← read?_chars, ← read?_chars, h]
  have hsign : a.negative = b.negative := by
    rw [Bool.eq_iff_iff, ← head?_chars_eq_minus_iff, h, head?_chars_eq_minus_iff]
  obtain ⟨_, hcoefficient, hscale⟩ := Decimal.mk.inj hread
  cases a
  cases b
  simp_all

theorem signed_withoutZeroSign (d : Decimal) : d.withoutZeroSign.signed = d.signed := by
  unfold signed
  by_cases hzero : d.coefficient = 0
  · simp [withoutZeroSign, hzero]
  · simp [withoutZeroSign, hzero]

theorem compare_withoutZeroSign (d : Decimal) : d.compare d.withoutZeroSign = .eq := by
  rw [compare, signed_withoutZeroSign]
  exact Std.ReflOrd.compare_self

end Decimal

end RecordQuery
