import Mathlib.Algebra.Order.Ring.Int
import RecordQuery.Numeric.Binary64

/-!
# Rounding integers

Rounding to the nearest floating-point number keeps the order of integers but not their
differences: of two different integers one may be rounded to the other. Up to `2 ^ 53` in size
every integer is rounded to itself.
-/

namespace RecordQuery.Binary64

/-! ## Nearest whole numbers -/

theorem divideToEven_cases (num den : Nat) :
    (divideToEven num den = num / den ∧ 2 * (num % den) ≤ den) ∨
      (divideToEven num den = num / den + 1 ∧ den ≤ 2 * (num % den)) := by
  unfold divideToEven
  dsimp only
  split
  · exact Or.inl ⟨rfl, by omega⟩
  · split
    · exact Or.inr ⟨rfl, by omega⟩
    · split
      · exact Or.inl ⟨rfl, by omega⟩
      · exact Or.inr ⟨rfl, by omega⟩

theorem div_le_divideToEven (num den : Nat) : num / den ≤ divideToEven num den := by
  rcases divideToEven_cases num den with ⟨h, _⟩ | ⟨h, _⟩ <;> omega

theorem divideToEven_le_succ (num den : Nat) : divideToEven num den ≤ num / den + 1 := by
  rcases divideToEven_cases num den with ⟨h, _⟩ | ⟨h, _⟩ <;> omega

theorem divideToEven_mono {a b : Nat} (den : Nat) (h : a ≤ b) :
    divideToEven a den ≤ divideToEven b den := by
  have ha := Nat.div_add_mod a den
  have hb := Nat.div_add_mod b den
  rcases Nat.eq_or_lt_of_le (Nat.div_le_div_right h : a / den ≤ b / den) with heq | hlt
  · rw [heq] at ha
    rcases divideToEven_cases a den with ⟨hdown, _⟩ | ⟨hup, hrest⟩
    · rw [hdown, heq]
      exact div_le_divideToEven b den
    · rcases divideToEven_cases b den with ⟨_, hrest'⟩ | ⟨hup', _⟩
      · have hab : a = b := by omega
        exact Nat.le_of_eq (congrArg (divideToEven · den) hab)
      · have heven : divideToEven a den = divideToEven b den := by rw [hup, hup', heq]
        exact Nat.le_of_eq heven
  · exact Nat.le_trans (divideToEven_le_succ a den)
      (Nat.le_trans hlt (div_le_divideToEven b den))

theorem divideToEven_of_dvd {num den : Nat} (hden : 0 < den) (h : den ∣ num) :
    divideToEven num den = num / den := by
  unfold divideToEven
  dsimp only
  rw [Nat.mod_eq_zero_of_dvd h, if_pos (by omega)]

/-! ## Sizes -/

def roundSize (size : Nat) : Nat := divideToEven size (2 ^ gap size) * 2 ^ gap size

theorem lt_of_gap (size : Nat) : size < 2 ^ 53 * 2 ^ gap size := by
  rw [← Nat.pow_add]
  apply Nat.lt_of_lt_of_le (Nat.lt_log2_self (n := size))
  apply Nat.pow_le_pow_right (by decide)
  unfold gap
  omega

theorem le_of_gap {size : Nat} (h : gap size ≠ 0) : 2 ^ 52 * 2 ^ gap size ≤ size := by
  have hlog : 52 + gap size = size.log2 := by
    unfold gap at h ⊢
    omega
  have hsize : size ≠ 0 := by
    intro h0
    subst h0
    exact h rfl
  rw [← Nat.pow_add, hlog]
  exact Nat.log2_self_le hsize

theorem hiddenBit_eq : hiddenBit = 2 ^ 52 := rfl

theorem divideToEven_gap_le (size : Nat) :
    divideToEven size (2 ^ gap size) ≤ 2 * hiddenBit := by
  have hbit : 2 * hiddenBit = 2 ^ 53 := rfl
  have hlt : size / 2 ^ gap size < 2 ^ 53 :=
    (Nat.div_lt_iff_lt_mul (Nat.two_pow_pos _)).mpr (lt_of_gap size)
  rw [hbit]
  exact Nat.le_trans (divideToEven_le_succ _ _) hlt

theorem le_divideToEven_gap {size : Nat} (h : gap size ≠ 0) :
    hiddenBit ≤ divideToEven size (2 ^ gap size) := by
  have hle : 2 ^ 52 ≤ size / 2 ^ gap size :=
    (Nat.le_div_iff_mul_le (Nat.two_pow_pos _)).mpr (le_of_gap h)
  rw [hiddenBit_eq]
  exact Nat.le_trans hle (div_le_divideToEven _ _)

theorem gap_mono {a b : Nat} (h : a ≤ b) : gap a ≤ gap b := by
  unfold gap
  rcases Nat.eq_zero_or_pos a with rfl | hpos
  · exact Nat.zero_le _
  · have hlog : a.log2 ≤ b.log2 := by
      have hb : b ≠ 0 := by omega
      apply (Nat.le_log2 hb).mpr
      exact Nat.le_trans (Nat.log2_self_le (Nat.ne_of_gt hpos)) h
    omega

theorem gap_le_of_lt {size e : Nat} (h : size < 2 ^ (53 + e)) : gap size ≤ e := by
  by_cases hzero : size = 0
  · rw [hzero]
    exact Nat.zero_le _
  · have hlog := (Nat.log2_lt hzero).mpr h
    unfold gap
    omega

/-- Between sizes of one exponent rounding is monotone, and a size of a smaller exponent is rounded
to at most the first size of the next. -/
theorem roundSize_mono {a b : Nat} (h : a ≤ b) : roundSize a ≤ roundSize b := by
  unfold roundSize
  rcases Nat.eq_or_lt_of_le (gap_mono h) with heq | hlt
  · rw [heq]
    exact Nat.mul_le_mul_right _ (divideToEven_mono _ h)
  · have hstep : 2 * hiddenBit * 2 ^ gap a ≤ hiddenBit * 2 ^ gap b := by
      rw [hiddenBit_eq, ← Nat.pow_succ', ← Nat.pow_add, ← Nat.pow_add]
      exact Nat.pow_le_pow_right (by decide) (by omega)
    have hnext : gap b ≠ 0 := by omega
    exact Nat.le_trans (Nat.mul_le_mul_right _ (divideToEven_gap_le a))
      (Nat.le_trans hstep (Nat.mul_le_mul_right _ (le_divideToEven_gap hnext)))

theorem roundSize_of_dvd {size : Nat} (h : 2 ^ gap size ∣ size) : roundSize size = size := by
  rw [roundSize, divideToEven_of_dvd (Nat.two_pow_pos _) h, Nat.div_mul_cancel h]

/-! ## Integers -/

theorem exists_unitsInOne_eq : ∃ k, k = 1074 ∧ unitsInOne = 2 ^ k := by
  have h (k : Nat) (hk : k = 1074) : unitsInOne = 2 ^ k := by
    rw [← Nat.one_shiftLeft, hk, unitsInOne]
  exact ⟨_, rfl, h _ rfl⟩

theorem unitsInOne_pos : 0 < unitsInOne := by
  obtain ⟨k, _, hk⟩ := exists_unitsInOne_eq
  rw [hk]
  exact Nat.two_pow_pos k

theorem gap_mul_unitsInOne_le {n e : Nat} (h : n < 2 ^ (53 + e)) :
    gap (n * unitsInOne) ≤ e + 1074 := by
  obtain ⟨k, hk, hunits⟩ := exists_unitsInOne_eq
  rw [hunits, ← hk]
  apply gap_le_of_lt
  rw [← Nat.add_assoc, Nat.pow_add]
  exact Nat.mul_lt_mul_of_pos_right h (Nat.two_pow_pos k)

theorem Finite.ofParts?_of_range {negative : Bool} {significand exponent : Nat}
    (h : significand < 2 * hiddenBit ∧ exponent ≤ 2045 ∧
      (exponent = 0 ∨ hiddenBit ≤ significand)) :
    ofParts? negative significand exponent =
      some ⟨negative, significand, exponent, h.1, h.2.1, h.2.2⟩ := dif_pos h

theorem Finite.ofRounded?_of_range (negative : Bool) {significand exponent : Nat}
    (hle : significand ≤ 2 * hiddenBit) (hexponent : exponent ≤ 2044)
    (hnormal : exponent ≠ 0 → hiddenBit ≤ significand) :
    ∃ x, ofRounded? negative significand exponent = some x ∧ x.negative = negative ∧
      x.size = significand * 2 ^ exponent := by
  unfold ofRounded?
  by_cases hfull : significand = 2 * hiddenBit
  · have hbit : hiddenBit < 2 * hiddenBit := by decide
    have hparts : hiddenBit < 2 * hiddenBit ∧ exponent + 1 ≤ 2045 ∧
        (exponent + 1 = 0 ∨ hiddenBit ≤ hiddenBit) :=
      ⟨hbit, Nat.succ_le_succ hexponent, Or.inr (Nat.le_refl _)⟩
    have hsize : hiddenBit * 2 ^ (exponent + 1) = 2 * hiddenBit * 2 ^ exponent := by
      rw [Nat.pow_succ, Nat.mul_comm 2 hiddenBit, Nat.mul_assoc, Nat.mul_comm 2]
    refine ⟨_, (if_pos hfull).trans (ofParts?_of_range hparts), rfl, ?_⟩
    rw [size, Nat.shiftLeft_eq, hfull]
    exact hsize
  · have hparts : significand < 2 * hiddenBit ∧ exponent ≤ 2045 ∧
        (exponent = 0 ∨ hiddenBit ≤ significand) := by
      refine ⟨Nat.lt_of_le_of_ne hle hfull, Nat.le_succ_of_le hexponent, ?_⟩
      by_cases hzero : exponent = 0
      · exact Or.inl hzero
      · exact Or.inr (hnormal hzero)
    refine ⟨_, (if_neg hfull).trans (ofParts?_of_range hparts), rfl, ?_⟩
    rw [size, Nat.shiftLeft_eq]

theorem ofUnits_eq_finite (negative : Bool) {scaled : Nat} (h : gap scaled ≤ 2044) :
    ∃ x, ofUnits negative scaled 1 = finite x ∧ x.negative = negative ∧
      x.size = roundSize scaled := by
  obtain ⟨x, hx, hnegative, hsize⟩ := Finite.ofRounded?_of_range negative
    (divideToEven_gap_le scaled) h le_divideToEven_gap
  refine ⟨x, ?_, hnegative, hsize⟩
  rw [ofUnits, Nat.div_one, Nat.one_shiftLeft, hx, orInfinite]

/-- The number nearest to an integer, counted in `2 ^ (-1074)`. -/
def roundInt (n : Int) : Int :=
  if n < 0 then -(roundSize (n.natAbs * unitsInOne) : Int) else roundSize (n.natAbs * unitsInOne)

theorem ofInt_eq_finite {n : Int} (h : n.natAbs < 2 ^ 64) :
    ∃ x, ofInt n = finite x ∧ x.units = roundInt n := by
  have hgap : gap (n.natAbs * unitsInOne) ≤ 11 + 1074 := gap_mul_unitsInOne_le h
  obtain ⟨x, hx, hnegative, hsize⟩ := ofUnits_eq_finite (n < 0) (Nat.le_trans hgap (by decide))
  refine ⟨x, hx, ?_⟩
  rw [Finite.units, hnegative, hsize, roundInt]
  by_cases hn : n < 0
  · rw [if_pos (decide_eq_true hn), if_pos hn]
  · rw [if_neg (by simp [hn]), if_neg hn]

theorem roundInt_mono {a b : Int} (h : a ≤ b) : roundInt a ≤ roundInt b := by
  unfold roundInt
  split
  · split
    · have hsize : roundSize (b.natAbs * unitsInOne) ≤ roundSize (a.natAbs * unitsInOne) :=
        roundSize_mono (Nat.mul_le_mul_right _ (by omega))
      omega
    · omega
  · have hb : ¬ b < 0 := by omega
    have hsize : roundSize (a.natAbs * unitsInOne) ≤ roundSize (b.natAbs * unitsInOne) :=
      roundSize_mono (Nat.mul_le_mul_right _ (by omega))
    rw [if_neg hb]
    omega

theorem compare_ofInt {a b : Int} (ha : a.natAbs < 2 ^ 64) (hb : b.natAbs < 2 ^ 64) :
    compare (ofInt a) (ofInt b) = some (Ord.compare (roundInt a) (roundInt b)) := by
  obtain ⟨x, hx, hxunits⟩ := ofInt_eq_finite ha
  obtain ⟨y, hy, hyunits⟩ := ofInt_eq_finite hb
  rw [hx, hy, compare, hxunits, hyunits]

/-- Up to `2 ^ 53` in size, integers are rounded to themselves. -/
theorem roundInt_of_natAbs_le {n : Int} (h : n.natAbs ≤ 2 ^ 53) : roundInt n = n * unitsInOne := by
  have hsize : roundSize (n.natAbs * unitsInOne) = n.natAbs * unitsInOne := by
    obtain ⟨k, hk, hunits⟩ := exists_unitsInOne_eq
    apply roundSize_of_dvd
    rcases Nat.eq_or_lt_of_le h with heq | hlt
    · rw [heq, hunits, ← Nat.pow_add, gap, Nat.log2_two_pow]
      exact Nat.pow_dvd_pow 2 (Nat.sub_le _ _)
    · have hgap : gap (n.natAbs * unitsInOne) ≤ k := by
        rw [hk]
        exact gap_mul_unitsInOne_le hlt
      rw [hunits] at hgap ⊢
      exact Nat.dvd_trans (Nat.pow_dvd_pow 2 hgap) (Nat.dvd_mul_left _ _)
  rw [roundInt, hsize]
  split
  · have habs : (n.natAbs : Int) = -n := by omega
    rw [Int.natCast_mul, habs, Int.neg_mul, Int.neg_neg]
  · have habs : (n.natAbs : Int) = n := by omega
    rw [Int.natCast_mul, habs]

/-- Below `2 ^ 53` in size, no other integer is rounded to the same number. -/
theorem eq_of_roundInt_eq {m n : Int} (hm : m.natAbs < 2 ^ 53) (h : roundInt m = roundInt n) :
    m = n := by
  have hpos : (0 : Int) < unitsInOne := Int.natCast_pos.mpr unitsInOne_pos
  have hself : roundInt m = m * unitsInOne := roundInt_of_natAbs_le (Nat.le_of_lt hm)
  rcases Int.lt_trichotomy m n with hlt | heq | hgt
  · have hnext : roundInt (m + 1) = (m + 1) * unitsInOne := roundInt_of_natAbs_le (by omega)
    have hmono := roundInt_mono (Int.add_one_le_of_lt hlt)
    rw [Int.add_mul] at hnext
    omega
  · exact heq
  · have hprevious : roundInt (m - 1) = (m - 1) * unitsInOne := roundInt_of_natAbs_le (by omega)
    have hmono := roundInt_mono (Int.le_sub_one_of_lt hgt)
    rw [Int.sub_mul] at hprevious
    omega

end RecordQuery.Binary64
