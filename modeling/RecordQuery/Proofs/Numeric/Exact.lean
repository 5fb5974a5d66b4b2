import Mathlib.Algebra.Order.Field.Basic
import Mathlib.Algebra.Order.Field.Rat
import Mathlib.Data.Rat.Cast.Order
import RecordQuery.Numeric.Number
import RecordQuery.Proofs.Numeric.Rounding

/-!
# Exact comparison of numbers

Integers and decimals stand for rational numbers. They are compared as these, but for one kind of
pair: an integer with a sign and one without are compared by the floating-point numbers nearest to
them, and two different integers may have the same one.
-/

namespace RecordQuery

/-- A comparison says how the values stand to each other under any scale. -/
theorem compare_compares_map {α : Type} [LinearOrder α] {f : α → ℚ} (hf : StrictMono f)
    (a b : α) : (Ord.compare a b).Compares (f a) (f b) := by
  have h := (compare_iff a b).mp rfl
  cases horder : Ord.compare a b with
  | lt =>
    rw [horder] at h
    exact hf h
  | eq =>
    rw [horder] at h
    exact congrArg f h
  | gt =>
    rw [horder] at h
    exact hf h

/-! ## Decimals -/

namespace Decimal

def toRat (d : Decimal) : ℚ := (d.signed : ℚ) / 10 ^ d.scale

theorem compare_compares (a b : Decimal) : (compare a b).Compares a.toRat b.toRat := by
  have hten : (0 : ℚ) < 10 := by decide
  have ha : (0 : ℚ) < 10 ^ a.scale := pow_pos hten a.scale
  have hb : (0 : ℚ) < 10 ^ b.scale := pow_pos hten b.scale
  have hplace (n : Nat) : ((Digits.placeValue n : Int) : ℚ) = 10 ^ n := by
    simp [Digits.placeValue]
  have hmono : StrictMono fun c : Int => (c : ℚ) / (10 ^ a.scale * 10 ^ b.scale) := by
    intro c d h
    exact div_lt_div_of_pos_right (Int.cast_lt.mpr h) (mul_pos ha hb)
  have h := compare_compares_map hmono (a.signed * (Digits.placeValue b.scale : Int))
    (b.signed * (Digits.placeValue a.scale : Int))
  rw [Int.cast_mul, Int.cast_mul, hplace, hplace, mul_div_mul_right _ _ hb.ne',
    mul_comm (10 ^ a.scale), mul_div_mul_right _ _ ha.ne'] at h
  exact h

theorem toRat_ofInt64 (n : Int64) : (ofInt64 n).toRat = n.toInt := by
  have hsigned : (ofInt64 n).signed = n.toInt := by
    unfold ofInt64 signed
    dsimp only
    split
    · rename_i hnegative
      have hlt : n.toInt < 0 := of_decide_eq_true hnegative
      omega
    · rename_i hnegative
      have hle : ¬ n.toInt < 0 := mt decide_eq_true hnegative
      omega
  rw [toRat, hsigned]
  exact div_one _

theorem toRat_ofUInt64 (n : UInt64) : (ofUInt64 n).toRat = n.toNat := by
  have hsigned : (ofUInt64 n).signed = n.toNat := rfl
  rw [toRat, hsigned]
  exact div_one _

end Decimal

namespace Number

/-- The rational number that a number stands for. Infinities and quiet errors stand for none and
are given zero. -/
def toRat : Number → ℚ
  | signed n => n.toInt
  | unsigned n => n.toNat
  | float (.finite x) => (x.units : ℚ) / Binary64.unitsInOne
  | float _ => 0
  | decimal d => d.toRat

@[simp] theorem toRat_signed (n : Int64) : (signed n).toRat = n.toInt := rfl

@[simp] theorem toRat_unsigned (n : UInt64) : (unsigned n).toRat = n.toNat := rfl

def isFloat : Number → Bool
  | float _ => true
  | _ => false

/-- Two different integers, one with a sign and one without, that have the same nearest
floating-point number. -/
def isMistakenFor : Number → Number → Bool
  | signed a, unsigned b =>
    a.toInt != b.toNat && Binary64.same (.ofInt a.toInt) (.ofInt b.toNat)
  | unsigned a, signed b =>
    a.toNat != b.toInt && Binary64.same (.ofInt a.toNat) (.ofInt b.toInt)
  | _, _ => false

/-! ## Integers -/

/-- Rounding keeps the order, so a comparison of the nearest numbers errs only where they are
equal. -/
theorem compare_ofInt_compares {m n : Int} (hm : m.natAbs < 2 ^ 64) (hn : n.natAbs < 2 ^ 64)
    (h : (m != n && Binary64.same (.ofInt m) (.ofInt n)) = false) :
    ∃ order, Binary64.compare (.ofInt m) (.ofInt n) = some order ∧
      order.Compares (m : ℚ) (n : ℚ) := by
  have hcompare := Binary64.compare_ofInt hm hn
  rcases lt_trichotomy m n with hlt | heq | hgt
  · rcases (Binary64.roundInt_mono hlt.le).lt_or_eq with hround | hround
    · refine ⟨.lt, ?_, Int.cast_lt.mpr hlt⟩
      rw [hcompare, compare_lt_iff_lt.mpr hround]
    · exfalso
      rw [Binary64.same, hcompare, compare_eq_iff_eq.mpr hround] at h
      simp [hlt.ne] at h
  · refine ⟨.eq, ?_, congrArg Int.cast heq⟩
    rw [hcompare, compare_eq_iff_eq.mpr (congrArg Binary64.roundInt heq)]
  · rcases (Binary64.roundInt_mono hgt.le).lt_or_eq with hround | hround
    · refine ⟨.gt, ?_, Int.cast_lt.mpr hgt⟩
      rw [hcompare, compare_gt_iff_gt.mpr hround]
    · exfalso
      rw [Binary64.same, hcompare, compare_eq_iff_eq.mpr hround.symm] at h
      simp [hgt.ne'] at h

theorem natAbs_toInt_lt (n : Int64) : n.toInt.natAbs < 2 ^ 64 := by
  have hlt := n.toInt_lt
  have hle := n.le_toInt
  omega

theorem natAbs_toNat_lt (n : UInt64) : (n.toNat : Int).natAbs < 2 ^ 64 := by
  rw [Int.natAbs_natCast]
  exact n.toNat_lt

/-! ## All exact numbers -/

theorem compare_signed_unsigned (a : Int64) (b : UInt64) :
    compare (signed a) (unsigned b) = Binary64.compare (.ofInt a.toInt) (.ofInt b.toNat) := by
  simp only [compare, isDecimal, Bool.or_self, Bool.false_eq_true, if_false, toBinary64]

theorem compare_unsigned_signed (a : UInt64) (b : Int64) :
    compare (unsigned a) (signed b) = Binary64.compare (.ofInt a.toNat) (.ofInt b.toInt) := by
  simp only [compare, isDecimal, Bool.or_self, Bool.false_eq_true, if_false, toBinary64]

theorem compare_of_toDecimal? {v n : Number} {x y : Decimal}
    (h : (v.isDecimal || n.isDecimal) = true) (hv : v.toDecimal? = some x)
    (hn : n.toDecimal? = some y) : v.compare n = some (Decimal.compare x y) := by
  cases v <;> cases n <;> simp_all [compare, isDecimal, toDecimal?]

theorem isMistakenFor_signed_unsigned {a : Int64} {b : UInt64} :
    (signed a).isMistakenFor (unsigned b) =
      (a.toInt != b.toNat && Binary64.same (.ofInt a.toInt) (.ofInt b.toNat)) := by
  simp only [isMistakenFor]

theorem isMistakenFor_unsigned_signed {a : UInt64} {b : Int64} :
    (unsigned a).isMistakenFor (signed b) =
      (a.toNat != b.toInt && Binary64.same (.ofInt a.toNat) (.ofInt b.toInt)) := by
  simp only [isMistakenFor]

variable {v n : Number}

theorem compare_of_isMistakenFor (h : v.isMistakenFor n = true) : v.compare n = some .eq := by
  cases v <;> cases n <;> simp only [isMistakenFor, Bool.false_eq_true] at h
  · rw [compare_signed_unsigned]
    obtain ⟨_, hsame⟩ := (Bool.and_eq_true _ _).mp h
    exact beq_iff_eq.mp hsame
  · rw [compare_unsigned_signed]
    obtain ⟨_, hsame⟩ := (Bool.and_eq_true _ _).mp h
    exact beq_iff_eq.mp hsame

theorem ne_of_isMistakenFor (h : v.isMistakenFor n = true) : v.toRat ≠ n.toRat := by
  intro heq
  cases v <;> cases n <;> simp only [isMistakenFor, Bool.false_eq_true] at h
  · obtain ⟨hne, _⟩ := (Bool.and_eq_true _ _).mp h
    rw [toRat_signed, toRat_unsigned] at heq
    exact bne_iff_ne.mp hne (by exact_mod_cast heq)
  · obtain ⟨hne, _⟩ := (Bool.and_eq_true _ _).mp h
    rw [toRat_signed, toRat_unsigned] at heq
    exact bne_iff_ne.mp hne (by exact_mod_cast heq)

theorem compare_compares_of_toDecimal? {x y : Decimal}
    (h : (v.isDecimal || n.isDecimal) = true) (hv : v.toDecimal? = some x)
    (hn : n.toDecimal? = some y) (hx : x.toRat = v.toRat) (hy : y.toRat = n.toRat) :
    ∃ order, v.compare n = some order ∧ order.Compares v.toRat n.toRat := by
  refine ⟨_, compare_of_toDecimal? h hv hn, ?_⟩
  rw [← hx, ← hy]
  exact Decimal.compare_compares x y

theorem compare_compares (hv : v.isFloat = false) (hn : n.isFloat = false)
    (h : v.isMistakenFor n = false) :
    ∃ order, v.compare n = some order ∧ order.Compares v.toRat n.toRat := by
  cases v with
  | float x => exact absurd hv (by simp [isFloat])
  | signed a =>
    cases n with
    | float x => exact absurd hn (by simp [isFloat])
    | signed b => exact ⟨_, rfl, compare_compares_map Int.cast_strictMono a.toInt b.toInt⟩
    | unsigned b =>
      rw [compare_signed_unsigned]
      rw [isMistakenFor_signed_unsigned] at h
      exact compare_ofInt_compares (natAbs_toInt_lt a) (natAbs_toNat_lt b) h
    | decimal b =>
      exact compare_compares_of_toDecimal? rfl rfl rfl (Decimal.toRat_ofInt64 a) rfl
  | unsigned a =>
    cases n with
    | float x => exact absurd hn (by simp [isFloat])
    | signed b =>
      rw [compare_unsigned_signed]
      rw [isMistakenFor_unsigned_signed] at h
      exact compare_ofInt_compares (natAbs_toNat_lt a) (natAbs_toInt_lt b) h
    | unsigned b => exact ⟨_, rfl, compare_compares_map Nat.strictMono_cast a.toNat b.toNat⟩
    | decimal b =>
      exact compare_compares_of_toDecimal? rfl rfl rfl (Decimal.toRat_ofUInt64 a) rfl
  | decimal a =>
    cases n with
    | float x => exact absurd hn (by simp [isFloat])
    | signed b =>
      exact compare_compares_of_toDecimal? rfl rfl rfl rfl (Decimal.toRat_ofInt64 b)
    | unsigned b =>
      exact compare_compares_of_toDecimal? rfl rfl rfl rfl (Decimal.toRat_ofUInt64 b)
    | decimal b => exact compare_compares_of_toDecimal? rfl rfl rfl rfl rfl

theorem le_of_isMistakenFor {a : UInt64} {b : Int64}
    (h : (unsigned a).isMistakenFor (signed b) = true) : 2 ^ 53 ≤ a.toNat ∧ 2 ^ 53 ≤ b.toInt := by
  rw [isMistakenFor_unsigned_signed] at h
  obtain ⟨hdiffer, hsame⟩ := (Bool.and_eq_true _ _).mp h
  have hne : (a.toNat : Int) ≠ b.toInt := bne_iff_ne.mp hdiffer
  have hround : Binary64.roundInt a.toNat = Binary64.roundInt b.toInt := by
    rw [Binary64.same, Binary64.compare_ofInt (natAbs_toNat_lt a) (natAbs_toInt_lt b)] at hsame
    exact compare_eq_iff_eq.mp (Option.some.inj (beq_iff_eq.mp hsame))
  have ha : 2 ^ 53 ≤ a.toNat := by
    by_contra hlt
    exact hne (Binary64.eq_of_roundInt_eq (by omega) hround)
  have hb : 2 ^ 53 ≤ b.toInt.natAbs := by
    by_contra hlt
    exact hne (Binary64.eq_of_roundInt_eq (by omega) hround.symm).symm
  refine ⟨ha, ?_⟩
  by_contra hlt
  have hle : Binary64.roundInt b.toInt ≤ Binary64.roundInt 0 := Binary64.roundInt_mono (by omega)
  have hge : Binary64.roundInt 1 ≤ Binary64.roundInt a.toNat := Binary64.roundInt_mono (by omega)
  have hzero : Binary64.roundInt 0 = 0 * Binary64.unitsInOne :=
    Binary64.roundInt_of_natAbs_le (by decide)
  have hone : Binary64.roundInt 1 = 1 * Binary64.unitsInOne :=
    Binary64.roundInt_of_natAbs_le (by decide)
  have hpos := Binary64.unitsInOne_pos
  omega

end Number

end RecordQuery
