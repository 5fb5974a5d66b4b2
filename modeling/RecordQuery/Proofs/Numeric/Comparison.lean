import Mathlib.Order.WithBot
import RecordQuery.Proofs.Numeric.Exact

/-!
# Numbers of all kinds in one order

Every number but a quiet error has a place among the rational numbers and the two infinities. Pairs
of one kind, and integers or decimals with decimals, are compared by their places. Every other pair
is compared by the nearest floating-point numbers, which may stand to each other in another way than
the numbers do.
-/

namespace RecordQuery

namespace Binary64

variable {x y : Binary64}

/-- The place of a number among the rational numbers and the infinities. A quiet error has none and
is given the lowest. -/
def place : Binary64 → WithBot (WithTop ℚ)
  | nan => ⊥
  | infinite true => ⊥
  | infinite false => (⊤ : WithTop ℚ)
  | finite x => (((x.units : ℚ) / unitsInOne : ℚ) : WithTop ℚ)

theorem compare_swap (x y : Binary64) : compare y x = (compare x y).map Ordering.swap := by
  cases x with
  | nan => cases y <;> rfl
  | infinite a =>
    cases y with
    | nan => rfl
    | infinite b => exact congrArg some Std.OrientedOrd.eq_swap
    | finite y => cases a <;> rfl
  | finite x =>
    cases y with
    | nan => rfl
    | infinite b => cases b <;> rfl
    | finite y => exact congrArg some Std.OrientedOrd.eq_swap

theorem place_strictMono : StrictMono fun x : ℚ => ((x : WithTop ℚ) : WithBot (WithTop ℚ)) :=
  WithBot.coe_strictMono.comp WithTop.coe_strictMono

theorem compare_compares (hx : x ≠ nan) (hy : y ≠ nan) :
    ∃ order, compare x y = some order ∧ order.Compares x.place y.place := by
  have htop (q : ℚ) : ((q : WithTop ℚ) : WithBot (WithTop ℚ)) < (⊤ : WithTop ℚ) :=
    WithBot.coe_lt_coe.mpr (WithTop.coe_lt_top q)
  cases x with
  | nan => exact absurd rfl hx
  | infinite a =>
    cases y with
    | nan => exact absurd rfl hy
    | infinite b =>
      refine ⟨_, rfl, ?_⟩
      cases a with
      | true =>
        cases b with
        | true => exact rfl
        | false => exact WithBot.bot_lt_coe _
      | false =>
        cases b with
        | true => exact WithBot.bot_lt_coe _
        | false => exact rfl
    | finite y =>
      refine ⟨_, rfl, ?_⟩
      cases a with
      | true => exact WithBot.bot_lt_coe _
      | false => exact htop _
  | finite x =>
    cases y with
    | nan => exact absurd rfl hy
    | infinite b =>
      refine ⟨_, rfl, ?_⟩
      cases b with
      | true => exact WithBot.bot_lt_coe _
      | false => exact htop _
    | finite y =>
      refine ⟨_, rfl, ?_⟩
      have hunits : (0 : ℚ) < unitsInOne := Nat.cast_pos.mpr unitsInOne_pos
      have hmono : StrictMono fun n : Int => (n : ℚ) / unitsInOne := by
        intro m n h
        exact div_lt_div_of_pos_right (Int.cast_lt.mpr h) hunits
      exact (place_strictMono.compares).mpr (compare_compares_map hmono x.units y.units)

theorem place_ofInt {n : Int} (h : n.natAbs ≤ 2 ^ 53) :
    (ofInt n).place = ((n : ℚ) : WithTop ℚ) := by
  have hunits : (unitsInOne : ℚ) ≠ 0 := Nat.cast_ne_zero.mpr unitsInOne_pos.ne'
  obtain ⟨x, hx, hxunits⟩ := ofInt_eq_finite (Nat.lt_of_le_of_lt h (by decide))
  rw [hx, place, hxunits, roundInt_of_natAbs_le h, Int.cast_mul, Int.cast_natCast,
    mul_div_cancel_right₀ _ hunits]

end Binary64

namespace Decimal

theorem compare_swap (a b : Decimal) : compare b a = (compare a b).swap := Std.OrientedOrd.eq_swap

theorem toRat_eq_of_compare {a b : Decimal} (h : compare a b = .eq) : a.toRat = b.toRat :=
  (compare_compares a b).eq_eq.mp h

end Decimal

namespace Number

variable {m n : Number}

def isNan : Number → Bool
  | float .nan => true
  | _ => false

/-- The place of a number among the rational numbers and the infinities. -/
def place : Number → WithBot (WithTop ℚ)
  | float x => x.place
  | n => (n.toRat : WithTop ℚ)

/-- The two numbers are compared by their nearest floating-point numbers: one is a floating-point
number and the other is not, or only one of two integers has a sign. -/
def meetAsBinary64 : Number → Number → Bool
  | float _, float _ => false
  | float _, _ => true
  | _, float _ => true
  | signed _, unsigned _ => true
  | unsigned _, signed _ => true
  | _, _ => false

theorem compare_of_meetAsBinary64 (h : m.meetAsBinary64 n = true) :
    m.compare n = Binary64.compare m.toBinary64 n.toBinary64 := by
  cases m <;> cases n <;> simp only [meetAsBinary64, Bool.false_eq_true] at h <;>
    simp only [compare, isDecimal, toDecimal?, Bool.or_self, Bool.or_false, Bool.or_true,
      Bool.false_eq_true, if_false, if_true, toBinary64]

theorem meetAsBinary64_comm (m n : Number) : m.meetAsBinary64 n = n.meetAsBinary64 m := by
  cases m <;> cases n <;> rfl

theorem compare_swap_of_toDecimal? {a b : Decimal} (h : (m.isDecimal || n.isDecimal) = true)
    (hm : m.toDecimal? = some a) (hn : n.toDecimal? = some b) :
    n.compare m = (m.compare n).map Ordering.swap := by
  have hswap : (n.isDecimal || m.isDecimal) = true := by rwa [Bool.or_comm]
  rw [compare_of_toDecimal? h hm hn, compare_of_toDecimal? hswap hn hm, Decimal.compare_swap]
  rfl

theorem compare_swap (m n : Number) : n.compare m = (m.compare n).map Ordering.swap := by
  by_cases h : m.meetAsBinary64 n = true
  · have hswap : n.meetAsBinary64 m = true := by rwa [meetAsBinary64_comm]
    rw [compare_of_meetAsBinary64 h, compare_of_meetAsBinary64 hswap]
    exact Binary64.compare_swap _ _
  · cases m <;> cases n <;> simp only [meetAsBinary64, not_true_eq_false] at h
    case signed.signed => exact congrArg some Std.OrientedOrd.eq_swap
    case unsigned.unsigned => exact congrArg some Std.OrientedOrd.eq_swap
    case float.float x y => exact Binary64.compare_swap x y
    all_goals exact compare_swap_of_toDecimal? rfl rfl rfl

/-- Neither number is a quiet error, and where the two are compared by their nearest floating-point
numbers, these stand to each other as the numbers do. -/
structure Commensurable (m n : Number) : Prop where
  left : m.isNan = false
  right : n.isNan = false
  rounded : m.meetAsBinary64 n = true →
    m.toBinary64 ≠ .nan ∧ n.toBinary64 ≠ .nan ∧
      ∀ order : Ordering, order.Compares m.toBinary64.place n.toBinary64.place →
        order.Compares m.place n.place

theorem ne_nan_of_isNan {x : Binary64} (h : (float x).isNan = false) : x ≠ .nan := by
  rintro rfl
  exact absurd h (by decide)

theorem place_of_isFloat (h : n.isFloat = false) : n.place = (n.toRat : WithTop ℚ) := by
  cases n with
  | float x => exact absurd h (by simp [isFloat])
  | signed n => rfl
  | unsigned n => rfl
  | decimal d => rfl

theorem compare_compares_place (h : Commensurable m n) :
    ∃ order, m.compare n = some order ∧ order.Compares m.place n.place := by
  by_cases hmeet : m.meetAsBinary64 n = true
  · obtain ⟨hm, hn, hrounded⟩ := h.rounded hmeet
    obtain ⟨order, hcompare, horder⟩ := Binary64.compare_compares hm hn
    exact ⟨order, (compare_of_meetAsBinary64 hmeet).trans hcompare, hrounded order horder⟩
  · cases hm : m.isFloat with
    | true =>
      obtain ⟨x, y, rfl, rfl⟩ : ∃ x y, m = float x ∧ n = float y := by
        cases m <;> cases n <;> simp_all [isFloat, meetAsBinary64]
      exact Binary64.compare_compares (ne_nan_of_isNan h.left) (ne_nan_of_isNan h.right)
    | false =>
      have hn : n.isFloat = false := by
        cases m <;> cases n <;> simp_all [isFloat, meetAsBinary64]
      have hdistinct : m.isMistakenFor n = false := by
        cases m <;> cases n <;> simp_all [isMistakenFor, meetAsBinary64]
      obtain ⟨order, hcompare, horder⟩ := compare_compares hm hn hdistinct
      refine ⟨order, hcompare, ?_⟩
      rw [place_of_isFloat hm, place_of_isFloat hn]
      exact (Binary64.place_strictMono.compares).mpr horder

/-- Up to `2 ^ 53` in size an integer is its own nearest floating-point number, so it goes with all
of them. -/
theorem commensurable_float_signed {x : Binary64} {k : Int64} (hx : x ≠ .nan)
    (hk : k.toInt.natAbs ≤ 2 ^ 53) : Commensurable (float x) (signed k) := by
  have hplace := Binary64.place_ofInt hk
  obtain ⟨y, hy, _⟩ := Binary64.ofInt_eq_finite (Nat.lt_of_le_of_lt hk (by decide))
  constructor
  case left =>
    cases x with
    | nan => exact absurd rfl hx
    | infinite negative => rfl
    | finite x => rfl
  case right => rfl
  case rounded =>
    intro _
    refine ⟨hx, ?_, ?_⟩
    · rw [toBinary64, hy]
      intro h
      cases h
    · intro order horder
      rw [toBinary64, toBinary64, hplace] at horder
      exact horder

end Number

end RecordQuery
