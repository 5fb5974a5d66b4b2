import Mathlib.Algebra.Order.Field.Power
import Mathlib.Algebra.Order.Field.Rat
import Mathlib.Data.Rat.Cast.Order
import Mathlib.Tactic.Linarith
import Mathlib.Tactic.Positivity
import Mathlib.Tactic.Ring
import RecordQuery.Numeric.Shortest
import RecordQuery.Proofs.Numeric.Digits
import RecordQuery.Proofs.Numeric.Rounding

/-!
# Shortest digits tell numbers apart

The digits of a floating-point number lie in the interval of the reals that round to it, because
seventeen of them always do. Intervals of different numbers of one sign have no real in common, so
different numbers have different digits.
-/

namespace RecordQuery

namespace Digits

theorem cast_placeValue (n : Nat) : ((placeValue n : Nat) : ℚ) = (10 : ℚ) ^ n :=
  Nat.cast_pow 10 n

theorem placeValue_pos (n : Nat) : 0 < placeValue n := Nat.pow_pos (by decide)

theorem zpow_mul_placeValue (e : Int) :
    (10 : ℚ) ^ e * placeValue (-e).toNat = placeValue e.toNat := by
  rw [cast_placeValue, cast_placeValue]
  rcases Int.le_total 0 e with h | h
  · obtain ⟨n, rfl⟩ := Int.eq_ofNat_of_zero_le h
    simp
  · obtain ⟨n, hn⟩ := Int.eq_ofNat_of_zero_le (Int.neg_nonneg_of_nonpos h)
    obtain rfl : e = -(n : Int) := by omega
    simp

end Digits

namespace Binary64

def DecimalForm.toRat (form : DecimalForm) : ℚ := form.digits * (10 : ℚ) ^ form.exponent

/-- Less, or equal where the ends of an interval count. -/
def UpTo {α : Type} [LE α] [LT α] (closed : Bool) (a b : α) : Prop :=
  if closed then a ≤ b else a < b

theorem upTo_natCast_iff {closed : Bool} {a b : Nat} :
    UpTo closed (a : ℚ) b ↔ UpTo closed a b := by
  cases closed <;> simp [UpTo]

theorem upTo_mul_iff {closed : Bool} {a b factor : ℚ} (h : 0 < factor) :
    UpTo closed (a * factor) (b * factor) ↔ UpTo closed a b := by
  cases closed <;> simp [UpTo, h]

theorem upTo_of_lt {closed : Bool} {a b : Nat} (h : a < b) : UpTo closed a b := by
  cases closed
  · exact h
  · exact Nat.le_of_lt h

theorem UpTo.le {closed : Bool} {a b : ℚ} (h : UpTo closed a b) : a ≤ b := by
  cases closed
  · exact le_of_lt h
  · exact h

theorem UpTo.closed {closed : Bool} {a b : ℚ} (h : UpTo closed a b) (hba : b ≤ a) :
    closed = true := by
  cases closed
  · exact absurd hba (not_le_of_gt h)
  · rfl

theorem le_of_not_upTo {closed : Bool} {a b : Nat} (h : ¬UpTo closed a b) : b ≤ a := by
  cases closed
  · exact Nat.not_lt.mp h
  · exact Nat.le_of_not_le h

namespace Interval

variable {i : Interval} {form : DecimalForm} {tie : Tie} {exponent place : Int}

/-- The rational number rounds to the number of the interval. -/
def Holds (i : Interval) (q : ℚ) : Prop :=
  UpTo i.closed (i.low : ℚ) (q * i.unit) ∧ UpTo i.closed (q * i.unit) (i.high : ℚ)

/-- The interval has a unit and its number lies inside. -/
structure Proper (i : Interval) : Prop where
  unit_pos : 0 < i.unit
  low_lt : i.low < i.value
  lt_high : i.value < i.high

/-! ## Grids -/

/-- The factor by which sizes are scaled before they are compared with a grid. -/
def scale (exponent : Int) : Nat := Digits.placeValue (-exponent).toNat

/-- The distance of two neighbours on a grid, scaled. -/
def step (i : Interval) (exponent : Int) : Nat := i.unit * Digits.placeValue exponent.toNat

/-- The neighbour of the value on a grid at or below it. -/
def below (i : Interval) (exponent : Int) : Nat := i.value * scale exponent / i.step exponent

theorem scale_pos (exponent : Int) : 0 < scale exponent := Digits.placeValue_pos _

theorem step_pos (hi : i.Proper) (exponent : Int) : 0 < i.step exponent :=
  Nat.mul_pos hi.unit_pos (Digits.placeValue_pos _)

theorem below_mul_le (i : Interval) (exponent : Int) :
    i.below exponent * i.step exponent ≤ i.value * scale exponent := Nat.div_mul_le_self _ _

theorem lt_succ_below_mul (hi : i.Proper) (exponent : Int) :
    i.value * scale exponent < (i.below exponent + 1) * i.step exponent := by
  rw [Nat.mul_comm (i.below exponent + 1)]
  exact Nat.lt_mul_div_succ _ (step_pos hi exponent)

theorem cast_step (i : Interval) (exponent : Int) :
    (i.step exponent : ℚ) = (10 : ℚ) ^ exponent * i.unit * scale exponent := by
  rw [step, Nat.cast_mul, ← Digits.zpow_mul_placeValue, scale]
  ring

theorem toRat_mul_unit (i : Interval) (form : DecimalForm) :
    form.toRat * i.unit * scale form.exponent = (form.digits * i.step form.exponent : Nat) := by
  rw [DecimalForm.toRat, Nat.cast_mul, cast_step]
  ring

/-- Whether a decimal form rounds to the number, in whole numbers. -/
theorem holds_toRat_iff :
    i.Holds form.toRat ↔
      UpTo i.closed (i.low * scale form.exponent) (form.digits * i.step form.exponent) ∧
        UpTo i.closed (form.digits * i.step form.exponent) (i.high * scale form.exponent) := by
  have hpos : (0 : ℚ) < scale form.exponent := Nat.cast_pos.mpr (scale_pos _)
  rw [Holds, ← upTo_mul_iff hpos, ← upTo_mul_iff (a := form.toRat * i.unit) hpos,
    i.toRat_mul_unit form, ← upTo_natCast_iff, ← upTo_natCast_iff, Nat.cast_mul i.low,
    Nat.cast_mul i.high]

theorem exists_onGrid?_eq (i : Interval) (tie : Tie) (exponent : Int) :
    ∃ belowFits aboveFits nearerAbove : Bool,
      (belowFits = true ↔
        UpTo i.closed (i.low * scale exponent) (i.below exponent * i.step exponent)) ∧
      (aboveFits = true ↔
        UpTo i.closed ((i.below exponent + 1) * i.step exponent) (i.high * scale exponent)) ∧
      i.onGrid? tie exponent =
        if belowFits && aboveFits then
          some ⟨if nearerAbove then i.below exponent + 1 else i.below exponent, exponent⟩
        else if belowFits then some ⟨i.below exponent, exponent⟩
        else if aboveFits then some ⟨i.below exponent + 1, exponent⟩
        else none := by
  refine ⟨_, _, _, ?_, ?_, rfl⟩
  · unfold UpTo
    split <;> exact decide_eq_true_iff
  · unfold UpTo
    split <;> exact decide_eq_true_iff

/-- What is taken of a grid rounds to the number. -/
theorem holds_of_onGrid? (hi : i.Proper) (h : i.onGrid? tie exponent = some form) :
    i.Holds form.toRat := by
  obtain ⟨belowFits, aboveFits, nearerAbove, hbelow, habove, heq⟩ := i.exists_onGrid?_eq tie exponent
  have hunder : UpTo i.closed (i.below exponent * i.step exponent) (i.high * scale exponent) :=
    upTo_of_lt (Nat.lt_of_le_of_lt (i.below_mul_le exponent)
      (Nat.mul_lt_mul_of_pos_right hi.lt_high (scale_pos exponent)))
  have hover : UpTo i.closed (i.low * scale exponent)
      ((i.below exponent + 1) * i.step exponent) :=
    upTo_of_lt (Nat.lt_trans (Nat.mul_lt_mul_of_pos_right hi.low_lt (scale_pos exponent))
      (lt_succ_below_mul hi exponent))
  rw [holds_toRat_iff]
  rw [heq] at h
  cases belowFits with
  | false =>
    cases aboveFits with
    | false => exact nomatch h
    | true =>
      obtain rfl := Option.some.inj h
      exact ⟨hover, habove.mp rfl⟩
  | true =>
    cases aboveFits with
    | false =>
      obtain rfl := Option.some.inj h
      exact ⟨hbelow.mp rfl, hunder⟩
    | true =>
      obtain rfl := Option.some.inj h
      cases nearerAbove with
      | false => exact ⟨hbelow.mp rfl, hunder⟩
      | true => exact ⟨hover, habove.mp rfl⟩

/-- An interval that is wider than the steps of a grid holds one of its numbers. -/
theorem isSome_onGrid? (tie : Tie)
    (hwide : i.low * scale exponent + i.step exponent < i.high * scale exponent) :
    (i.onGrid? tie exponent).isSome = true := by
  obtain ⟨belowFits, aboveFits, nearerAbove, hbelow, habove, heq⟩ := i.exists_onGrid?_eq tie exponent
  rw [heq]
  cases belowFits with
  | true => cases aboveFits <;> rfl
  | false =>
    cases aboveFits with
    | true => rfl
    | false =>
      have hleft := le_of_not_upTo (mt hbelow.mpr (by simp))
      have hright := le_of_not_upTo (mt habove.mpr (by simp))
      rw [Nat.succ_mul] at hright
      omega

/-! ## The search -/

theorem exists_search {fuel count skipped : Nat} (hskipped : skipped < fuel)
    (hhit : (i.onGrid? tie (place - (count + skipped : Nat))).isSome = true) :
    ∃ exponent, i.onGrid? tie exponent = some (i.search tie place fuel count) := by
  induction fuel generalizing count skipped with
  | zero => exact absurd hskipped (Nat.not_lt_zero _)
  | succ fuel ih =>
    rw [search]
    split
    · rename_i form hform
      exact ⟨_, hform⟩
    · rename_i hnone
      cases skipped with
      | zero =>
        rw [Nat.add_zero, hnone] at hhit
        exact nomatch hhit
      | succ skipped =>
        apply ih (Nat.lt_of_succ_lt_succ hskipped)
        rwa [Nat.succ_add_eq_add_succ]

/-- The place of the first digit is not put too high. -/
theorem zpow_place_le (hi : i.Proper) : (10 : ℚ) ^ (i.place - 1) * i.unit ≤ i.value := by
  have hvalue : 0 < i.value := Nat.lt_of_le_of_lt (Nat.zero_le _) hi.low_lt
  unfold place
  dsimp only
  split
  · rename_i hwhole
    generalize hn : i.value / i.unit = n at hwhole ⊢
    obtain ⟨k, hk⟩ : ∃ k, (Digits.ofNat n).length = k + 1 :=
      Nat.exists_eq_succ_of_ne_zero (Nat.ne_of_gt Nat.length_toDigits_pos)
    have hpow : 10 ^ k ≤ n := by
      have hle := Digits.pow_le_of_ne_zero (Nat.ne_of_gt hwhole)
      rwa [hk, Nat.add_sub_cancel] at hle
    have hle : 10 ^ k * i.unit ≤ i.value :=
      Nat.le_trans (Nat.mul_le_mul_right _ hpow) (hn ▸ Nat.div_mul_le_self _ _)
    have hexponent : ((Digits.ofNat n).length : Int) - 1 = (k : Int) := by omega
    rw [hexponent, zpow_natCast]
    exact_mod_cast hle
  · generalize hn : (i.unit + i.value - 1) / i.value - 1 = n
    have hceil : i.unit ≤ (n + 1) * i.value := by
      have hlt := Nat.lt_mul_div_succ (i.unit + i.value - 1) hvalue
      have hone : (i.unit + i.value - 1) / i.value ≤ n + 1 := by omega
      have hmul := Nat.mul_le_mul_right i.value hone
      rw [Nat.mul_add, Nat.mul_comm i.value] at hlt
      omega
    have hle : i.unit ≤ 10 ^ (Digits.ofNat n).length * i.value :=
      Nat.le_trans hceil (Nat.mul_le_mul_right _ (Digits.lt_pow_length n))
    have hexponent : 1 - ((Digits.ofNat n).length : Int) - 1 = -((Digits.ofNat n).length : Int) := by
      omega
    have hpos : (0 : ℚ) < 10 ^ (Digits.ofNat n).length := by positivity
    rw [hexponent, zpow_neg, zpow_natCast, inv_mul_le_iff₀ hpos]
    exact_mod_cast hle

/-- An interval of more than `10 ^ (-16)` of its value holds a number of seventeen digits. -/
theorem isSome_seventeen (hi : i.Proper) (tie : Tie)
    (hwide : i.value < (i.high - i.low) * 10 ^ 16) :
    (i.onGrid? tie (i.place - 17)).isSome = true := by
  apply isSome_onGrid?
  generalize hexponent : i.place - 17 = exponent
  have hlow : i.low ≤ i.high := Nat.le_of_lt (Nat.lt_trans hi.low_lt hi.lt_high)
  have hstep : (10 : ℚ) ^ exponent * i.unit < i.high - i.low := by
    have hplace := zpow_place_le hi
    have hpower : (10 : ℚ) ^ (i.place - 1) = (10 : ℚ) ^ exponent * 10 ^ 16 := by
      have hsum : i.place - 1 = exponent + (16 : Nat) := by omega
      rw [hsum, zpow_add₀ (by norm_num), zpow_natCast]
    have hcast : (i.value : ℚ) < (i.high - i.low) * 10 ^ 16 := by
      rw [← Nat.cast_sub hlow]
      exact_mod_cast hwide
    rw [hpower] at hplace
    linarith
  have hscaled : (i.step exponent : ℚ) < (i.high - i.low) * scale exponent := by
    rw [cast_step]
    exact mul_lt_mul_of_pos_right hstep (Nat.cast_pos.mpr (scale_pos _))
  have hcast : ((i.low * scale exponent + i.step exponent : Nat) : ℚ) <
      (i.high * scale exponent : Nat) := by
    push_cast
    linarith
  exact_mod_cast hcast

theorem holds_search (hi : i.Proper) (tie : Tie) (hwide : i.value < (i.high - i.low) * 10 ^ 16) :
    i.Holds (i.search tie i.place 17 1).toRat := by
  have hhit : (i.onGrid? tie (i.place - (1 + 16 : Nat))).isSome = true :=
    isSome_seventeen hi tie hwide
  have hfuel : 16 < 17 := by decide
  obtain ⟨exponent, hform⟩ := exists_search hfuel hhit
  exact holds_of_onGrid? hi hform

end Interval

/-! ## Intervals of different numbers -/

namespace Finite

variable {x y : Finite} {q : ℚ}

/-- The distance to the number below, in the quarters in which an interval is counted, is half as
large at the first number of an exponent. -/
def lowerGap (x : Finite) : Nat :=
  if x.significand = hiddenBit ∧ 0 < x.exponent then 1 else 2

theorem lowerGap_cases (x : Finite) :
    (x.lowerGap = 1 ∧ x.significand = hiddenBit ∧ 0 < x.exponent) ∨
      (x.lowerGap = 2 ∧ (x.significand = hiddenBit → x.exponent = 0)) := by
  unfold lowerGap
  split
  · rename_i h
    exact Or.inl ⟨rfl, h⟩
  · rename_i h
    exact Or.inr ⟨rfl, fun hfirst => Nat.eq_zero_of_not_pos fun hpos => h ⟨hfirst, hpos⟩⟩

theorem low_interval (x : Finite) :
    x.interval.low = (4 * x.significand - x.lowerGap) * 2 ^ x.exponent := by
  rw [interval, Nat.one_shiftLeft, lowerGap]

theorem value_interval (x : Finite) : x.interval.value = 4 * x.significand * 2 ^ x.exponent := by
  rw [interval, Nat.one_shiftLeft]

theorem high_interval (x : Finite) :
    x.interval.high = (4 * x.significand + 2) * 2 ^ x.exponent := by
  rw [interval, Nat.one_shiftLeft]

theorem unit_interval (x : Finite) : x.interval.unit = 4 * unitsInOne := rfl

theorem closed_interval_iff (x : Finite) : x.interval.closed = true ↔ x.significand % 2 = 0 :=
  beq_iff_eq

theorem proper_interval (hx : x.significand ≠ 0) : x.interval.Proper where
  unit_pos := Nat.mul_pos (by decide) unitsInOne_pos
  low_lt := by
    rw [low_interval, value_interval]
    apply Nat.mul_lt_mul_of_pos_right _ (Nat.two_pow_pos _)
    have hcases := x.lowerGap_cases
    omega
  lt_high := by
    rw [value_interval, high_interval]
    exact Nat.mul_lt_mul_of_pos_right (by omega) (Nat.two_pow_pos _)

theorem wide_interval (x : Finite) :
    x.interval.value < (x.interval.high - x.interval.low) * 10 ^ 16 := by
  have hlt := x.significand_lt
  have hbit : hiddenBit = 0x10000000000000 := rfl
  rw [value_interval, high_interval, low_interval, ← Nat.sub_mul, Nat.mul_right_comm (_ - _)]
  apply Nat.mul_lt_mul_of_pos_right _ (Nat.two_pow_pos _)
  rcases x.lowerGap_cases with ⟨hgap, hfirst, _⟩ | ⟨hgap, _⟩
  · rw [hgap, hfirst, hbit]
    decide
  · rw [hgap]
    omega

theorem not_holds_zero (hx : x.significand ≠ 0) : ¬x.interval.Holds 0 := by
  intro h
  have hlow : 0 < x.interval.low := by
    rw [low_interval]
    apply Nat.mul_pos _ (Nat.two_pow_pos _)
    have hcases := x.lowerGap_cases
    omega
  have hle := h.1.le
  rw [zero_mul] at hle
  exact absurd hle (not_le_of_gt (Nat.cast_pos.mpr hlow))

/-- Of two numbers of one sign the one that is nearer to zero. -/
def Below (x y : Finite) : Prop :=
  x.exponent < y.exponent ∨ (x.exponent = y.exponent ∧ x.significand < y.significand)

/-- An interval ends where the next ones begin or before, and where it ends with the beginning of
another one, the end does not count in both. -/
theorem high_le_low (h : Below x y) :
    x.interval.high ≤ y.interval.low ∧
      (x.interval.high = y.interval.low →
        ¬(x.interval.closed = true ∧ y.interval.closed = true)) := by
  rw [high_interval, low_interval, closed_interval_iff, closed_interval_iff]
  have hnormal := x.normal
  have hlt := x.significand_lt
  rcases h with hexponent | ⟨hexponent, hsignificand⟩
  · have hfirst : hiddenBit ≤ y.significand := y.normal.resolve_left (by omega)
    have hlow : 4 * hiddenBit - 1 ≤ 4 * y.significand - y.lowerGap := by
      have hcases := y.lowerGap_cases
      omega
    have hpower : 2 ^ x.exponent * 2 ≤ 2 ^ y.exponent := by
      rw [← Nat.pow_succ]
      exact Nat.pow_le_pow_right (by decide) hexponent
    have hnext : (8 * hiddenBit - 2) * 2 ^ x.exponent ≤
        (4 * y.significand - y.lowerGap) * 2 ^ y.exponent := by
      calc (8 * hiddenBit - 2) * 2 ^ x.exponent
          = (4 * hiddenBit - 1) * (2 ^ x.exponent * 2) := by
            have hdouble : 8 * hiddenBit - 2 = (4 * hiddenBit - 1) * 2 := by omega
            rw [hdouble]
            ring
        _ ≤ _ := Nat.mul_le_mul hlow hpower
    have hlast : (4 * x.significand + 2) * 2 ^ x.exponent ≤
        (8 * hiddenBit - 2) * 2 ^ x.exponent := Nat.mul_le_mul_right _ (by omega)
    refine ⟨Nat.le_trans hlast hnext, ?_⟩
    rintro heq ⟨heven, _⟩
    have hfull := Nat.eq_of_mul_eq_mul_right (Nat.two_pow_pos x.exponent)
      (Nat.le_antisymm hlast (heq ▸ hnext))
    omega
  · have hgap : y.lowerGap = 2 := by
      rcases y.lowerGap_cases with ⟨_, hfirst, hpos⟩ | ⟨hgap, _⟩
      · omega
      · exact hgap
    rw [hgap, hexponent]
    constructor
    · exact Nat.mul_le_mul_right _ (by omega)
    · rintro heq ⟨hxeven, hyeven⟩
      have hmiddle := Nat.eq_of_mul_eq_mul_right (Nat.two_pow_pos y.exponent) heq
      omega

theorem not_holds_of_below (h : Below x y) (hx : x.interval.Holds q) : ¬y.interval.Holds q := by
  intro hy
  obtain ⟨hle, hends⟩ := high_le_low h
  obtain ⟨_, hunder⟩ := hx
  obtain ⟨hover, _⟩ := hy
  rw [unit_interval] at hunder hover
  have hcast : (x.interval.high : ℚ) ≤ y.interval.low := Nat.cast_le.mpr hle
  have heq : x.interval.high = y.interval.low :=
    Nat.le_antisymm hle (Nat.cast_le.mp (hover.le.trans hunder.le))
  exact hends heq ⟨hunder.closed (hcast.trans hover.le), hover.closed (hunder.le.trans hcast)⟩

/-- A rational number rounds to one number of a sign. -/
theorem eq_of_holds (hsign : x.negative = y.negative) (hx : x.interval.Holds q)
    (hy : y.interval.Holds q) : x = y := by
  rcases Nat.lt_trichotomy x.exponent y.exponent with hlt | heq | hgt
  · exact absurd hy (not_holds_of_below (Or.inl hlt) hx)
  · rcases Nat.lt_trichotomy x.significand y.significand with hlt | hsame | hgt
    · exact absurd hy (not_holds_of_below (Or.inr ⟨heq, hlt⟩) hx)
    · cases x
      cases y
      simp_all
    · exact absurd hx (not_holds_of_below (Or.inr ⟨heq.symm, hgt⟩) hy)
  · exact absurd hx (not_holds_of_below (Or.inl hgt) hy)

end Finite

/-! ## Digits without trailing zeros -/

namespace DecimalForm

variable {form : DecimalForm}

theorem exists_trimmed (form : DecimalForm) :
    ∃ n, Digits.ofNat form.digits = form.trimmed.1 ++ List.replicate n '0' ∧
      form.trimmed.2 = form.exponent + n := by
  let digits := Digits.ofNat form.digits
  let zeros := digits.reverse.takeWhile (· == '0')
  have hsplit : digits = form.trimmed.1 ++ zeros.reverse := by
    have hjoin := List.takeWhile_append_dropWhile (p := (· == '0')) (l := digits.reverse)
    have hback := congrArg List.reverse hjoin
    rw [List.reverse_append, List.reverse_reverse] at hback
    exact hback.symm
  have hzeros : zeros.reverse = List.replicate zeros.length '0' := by
    apply List.eq_replicate_iff.mpr
    refine ⟨List.length_reverse, fun c hc => ?_⟩
    have hall := List.all_eq_true.mp (List.all_takeWhile (p := (· == '0'))) c
      (List.mem_reverse.mp hc)
    exact beq_iff_eq.mp hall
  refine ⟨zeros.length, hzeros ▸ hsplit, ?_⟩
  have hlength := congrArg List.length hsplit
  rw [List.length_append, List.length_reverse] at hlength
  have htrimmed : form.trimmed.2 =
      form.exponent + (digits.length - form.trimmed.1.length : Nat) := rfl
  rw [htrimmed]
  omega

theorem value_trimmed (form : DecimalForm) :
    (Digits.value form.trimmed.1 : ℚ) * (10 : ℚ) ^ form.trimmed.2 = form.toRat := by
  obtain ⟨n, hdigits, hexponent⟩ := form.exists_trimmed
  have hvalue : form.digits = 10 ^ n * Digits.value form.trimmed.1 := by
    rw [← Digits.value_append_replicate_zero, ← hdigits, Digits.value_ofNat]
  rw [toRat, hexponent, hvalue, zpow_add₀ (by norm_num), zpow_natCast]
  push_cast
  ring

theorem head?_trimmed (h : form.digits ≠ 0) : ∃ c, form.trimmed.1.head? = some c ∧ c ≠ '0' := by
  obtain ⟨n, hdigits, _⟩ := form.exists_trimmed
  have hfirst := Digits.ne_zero_of_mem_head?_ofNat h
  cases hkept : form.trimmed.1 with
  | nil =>
    rw [hkept, List.nil_append] at hdigits
    cases n with
    | zero => exact absurd hdigits Nat.toDigits_ne_nil
    | succ n => exact absurd rfl (hfirst '0' (by rw [hdigits]; rfl))
  | cons c rest =>
    refine ⟨c, rfl, hfirst c ?_⟩
    rw [hdigits, hkept]
    rfl

theorem isDigit_of_mem_trimmed {c : Char} (h : c ∈ form.trimmed.1) : c.isDigit = true := by
  obtain ⟨n, hdigits, _⟩ := form.exists_trimmed
  apply Digits.isDigit_of_mem_ofNat
  rw [hdigits]
  exact List.mem_append_left _ h

end DecimalForm

namespace Finite

variable {x y : Finite}

/-- The number that digits and the power of ten of the last of them stand for. -/
def spelled (digits : List Char × Int) : ℚ := Digits.value digits.1 * (10 : ℚ) ^ digits.2

theorem holds_shortest (hx : x.significand ≠ 0) (tie : Tie) :
    x.interval.Holds (spelled (x.shortest tie)) := by
  have hsearch := Interval.holds_search (proper_interval hx) tie x.wide_interval
  rwa [← DecimalForm.value_trimmed] at hsearch

theorem spelled_shortest_ne_zero (hx : x.significand ≠ 0) (tie : Tie) :
    spelled (x.shortest tie) ≠ 0 := by
  intro hzero
  have hholds := holds_shortest hx tie
  rw [hzero] at hholds
  exact not_holds_zero hx hholds

theorem head?_shortest (hx : x.significand ≠ 0) (tie : Tie) :
    ∃ c, (x.shortest tie).1.head? = some c ∧ c ≠ '0' := by
  apply DecimalForm.head?_trimmed
  intro hzero
  apply spelled_shortest_ne_zero hx tie
  rw [spelled, shortest, DecimalForm.value_trimmed, DecimalForm.toRat, hzero, Nat.cast_zero,
    zero_mul]

theorem isDigit_of_mem_shortest {tie : Tie} {c : Char} (h : c ∈ (x.shortest tie).1) :
    c.isDigit = true := DecimalForm.isDigit_of_mem_trimmed h

theorem eq_of_zero (hsign : x.negative = y.negative) (hx : x.significand = 0)
    (hy : y.significand = 0) : x = y := by
  have hbit : 0 < hiddenBit := by decide
  have hx' : x.exponent = 0 := x.normal.resolve_right (by omega)
  have hy' : y.exponent = 0 := y.normal.resolve_right (by omega)
  cases x
  cases y
  simp_all

/-- The shortest digits of a number belong to no other number of its sign. -/
theorem eq_of_spelled_eq (hsign : x.negative = y.negative) (hx : x.significand ≠ 0)
    (hy : y.significand ≠ 0) {tie : Tie}
    (h : spelled (x.shortest tie) = spelled (y.shortest tie)) : x = y :=
  eq_of_holds hsign (holds_shortest hx tie) (h ▸ holds_shortest hy tie)

end Finite

end Binary64

end RecordQuery
