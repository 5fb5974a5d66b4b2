import RecordQuery.Proofs.Condition.Exactness
import RecordQuery.Proofs.Condition.NumberForms
import RecordQuery.Proofs.Json.CompactText
import RecordQuery.Proofs.Json.Equality
import RecordQuery.Proofs.Numeric.Comparison
import RecordQuery.Proofs.Numeric.DecimalText

/-!
# Numeric conditions in the data format

A numeric condition is written with its operator and its operands, and what is written tells it
from every other one that judges numbers differently, unless an operand is infinite or a quiet
error: all of these are written `null`.
-/

namespace RecordQuery

namespace Binary64

variable {x y : Binary64}

theorem compare_of_same (h : same x y = true) (z : Binary64) : compare z x = compare z y := by
  have hsame := eq_of_beq h
  cases x with
  | nan => exact absurd hsame (by cases y <;> simp [compare])
  | infinite a =>
    cases y with
    | nan => exact absurd hsame (by simp [compare])
    | infinite b =>
      obtain rfl : a = b := by
        cases a <;> cases b <;> first | rfl | exact absurd hsame (by decide)
      rfl
    | finite y => exact absurd hsame (by cases a <;> simp [compare])
  | finite x =>
    cases y with
    | nan => exact absurd hsame (by simp [compare])
    | infinite b => exact absurd hsame (by cases b <;> simp [compare])
    | finite y =>
      have hunits : x.units = y.units := Std.LawfulEqOrd.eq_of_compare (Option.some.inj hsame)
      cases z <;> simp [compare, hunits]

theorem same_of_place_eq (hx : x ≠ nan) (hy : y ≠ nan) (h : x.place = y.place) :
    same x y = true := by
  obtain ⟨order, hcompare, horder⟩ := compare_compares hx hy
  obtain rfl : order = .eq := horder.eq_eq.mpr h
  rw [same, hcompare]
  rfl

end Binary64

/-! ## Operands -/

namespace Number

variable {x y : Binary64} {m n : Number}

theorem compare_float (v : Number) (x : Binary64) :
    v.compare (float x) = Binary64.compare v.toBinary64 x := by
  cases v <;> simp [compare, isDecimal, toDecimal?, toBinary64]

theorem same_self (h : n.isNan = false) : n.same n = true := by
  cases n with
  | signed n => exact beq_self_eq_true n
  | unsigned n => exact beq_self_eq_true n
  | float x =>
    have hx : x ≠ .nan := ne_nan_of_isNan h
    exact Binary64.same_of_place_eq hx hx rfl
  | decimal d =>
    have hrefl : Decimal.compare d d = .eq := Std.ReflOrd.compare_self
    exact beq_iff_eq.mpr hrefl

/-- Finite floating-point numbers are written by value, the others all alike. -/
theorem same_of_toJson_float (h : (float x).toJson.same (float y).toJson = true) :
    Binary64.same x y = true ∨ (x.isFinite = false ∧ y.isFinite = false) := by
  cases x with
  | nan => cases y <;> first | exact Or.inr ⟨rfl, rfl⟩ | exact absurd h Bool.false_ne_true
  | infinite a => cases y <;> first | exact Or.inr ⟨rfl, rfl⟩ | exact absurd h Bool.false_ne_true
  | finite x =>
    cases y with
    | nan => exact absurd h Bool.false_ne_true
    | infinite b => exact absurd h Bool.false_ne_true
    | finite y =>
      have hunits : x.units = y.units := eq_of_beq h
      exact Or.inl (Binary64.same_of_place_eq (by simp) (by simp)
        (by rw [Binary64.place, Binary64.place, hunits]))

/-- Numbers of an integer or decimal field are written each in its own way. -/
theorem eq_of_toJson {type : FieldType} (htype : type ≠ .float) (hm : Condition.IsRead type m)
    (hn : Condition.IsRead type n) (h : m.toJson.same n.toJson = true) : m = n := by
  cases type with
  | integer =>
    obtain ⟨a, rfl⟩ := Condition.signed_of_isRead hm
    obtain ⟨b, rfl⟩ := Condition.signed_of_isRead hn
    have hint : a.toInt = b.toInt := eq_of_beq h
    rw [Int64.toInt_inj.mp hint]
  | decimal =>
    obtain ⟨a, rfl⟩ := Condition.decimal_of_isRead hm
    obtain ⟨b, rfl⟩ := Condition.decimal_of_isRead hn
    have htext : a.text = b.text := eq_of_beq h
    rw [Decimal.chars_injective (String.ofList_injective htext)]
  | float => exact absurd rfl htype
  | _ =>
    obtain ⟨cs, hcs⟩ := hm
    exact nomatch hcs

end Number

/-! ## Conditions on numbers -/

/-- The operators with one number behind them. -/
def Operator.singles : List Operator := [exact, atLeast, atMost, above, below]

theorem Operator.tag_injective : Function.Injective tag := by
  intro a b h
  cases a <;> cases b <;> first | rfl | exact absurd h (by decide)

namespace Condition

variable {operator : Operator} {m n v : Number} {c d : Condition} {x y : Binary64}

def single (operator : Operator) (n : Number) : Condition :=
  if operator = .exact then exact (.number n) else ofSign operator n

/-- No number stands to the operand as the operator asks. -/
def isVoidAt (operator : Operator) (n : Number) : Bool :=
  n.isNan || (operator == .above && n == .float (.infinite false)) ||
    (operator == .below && n == .float (.infinite true))

/-- The condition on a number holds of none. -/
def isVoid : Condition → Bool
  | within low high => !compares .atMost low high
  | condition => condition.operands.any (isVoidAt condition.operator)

theorem forall_single {motive : Operator → Prop} (hexact : motive .exact)
    (hatLeast : motive .atLeast) (hatMost : motive .atMost) (habove : motive .above)
    (hbelow : motive .below) : ∀ operator ∈ Operator.singles, motive operator := by
  intro operator h
  cases operator <;> first | assumption | exact absurd h (by decide)

theorem operator_single (h : operator ∈ Operator.singles) (n : Number) :
    (single operator n).operator = operator :=
  forall_single (motive := fun operator => (single operator n).operator = operator)
    rfl rfl rfl rfl rfl operator h

theorem holds_single (h : operator ∈ Operator.singles) (n v : Number) :
    (single operator n).holds (.number v) = compares operator v n :=
  forall_single (motive := fun operator => (single operator n).holds (.number v) =
    compares operator v n) rfl rfl rfl rfl rfl operator h

theorem operandJson_single (h : operator ∈ Operator.singles) (n : Number) :
    (single operator n).operandJson = n.toJson :=
  forall_single (motive := fun operator => (single operator n).operandJson = n.toJson)
    rfl rfl rfl rfl rfl operator h

theorem operands_single (h : operator ∈ Operator.singles) (n : Number) :
    (single operator n).operands = [n] :=
  forall_single (motive := fun operator => (single operator n).operands = [n])
    rfl rfl rfl rfl rfl operator h

theorem same_single (h : operator ∈ Operator.singles) (m n : Number) :
    (single operator m).same (single operator n) = m.same n :=
  forall_single (motive := fun operator => (single operator m).same (single operator n) = m.same n)
    rfl rfl rfl rfl rfl operator h

theorem isVoid_single (h : operator ∈ Operator.singles) (n : Number) :
    (single operator n).isVoid = isVoidAt operator n :=
  forall_single (motive := fun operator => (single operator n).isVoid = isVoidAt operator n)
    (Bool.or_false _) (Bool.or_false _) (Bool.or_false _) (Bool.or_false _) (Bool.or_false _)
    operator h

/-- A condition on a number has one operand, or two bounds. -/
theorem exists_operands_of_classify [RegexLibrary] {type : FieldType}
    (htype : type.isNumeric = true) {raw : String} (h : classify type raw = .ok c) :
    (∃ operator ∈ Operator.singles, ∃ n, c = single operator n ∧ IsRead type n) ∨
      ∃ low high, c = within low high ∧ IsRead type low ∧ IsRead type high := by
  rw [classify_of_isNumeric htype] at h
  obtain ⟨form, hform⟩ := exists_form_of_ofNumberText h
  have hread (n : Number) (hn : n ∈ c.operands) : IsRead type n := isRead_of_form hform hn
  cases form with
  | number text =>
    obtain ⟨n, _, rfl⟩ := Option.map_eq_some_iff.mp hform
    exact Or.inl ⟨.exact, by decide, n, rfl, hread n (List.mem_singleton_self n)⟩
  | compared comparison text =>
    obtain ⟨n, _, rfl⟩ := Option.map_eq_some_iff.mp hform
    have hsingle : comparison.condition n = single comparison.operator n := by
      cases comparison <;> rfl
    have hmem : comparison.operator ∈ Operator.singles := by
      cases comparison <;> decide
    rw [hsingle] at hread ⊢
    rw [operands_single hmem] at hread
    exact Or.inl ⟨_, hmem, n, rfl, hread n (List.mem_singleton_self n)⟩
  | range low high =>
    obtain ⟨x, _, hrest⟩ := Option.bind_eq_some_iff.mp hform
    obtain ⟨y, _, rfl⟩ := Option.map_eq_some_iff.mp hrest
    exact Or.inr ⟨x, y, rfl, hread x (by simp [operands]), hread y (by simp [operands])⟩

/-! ## Floating-point operands -/

theorem compares_of_same (h : Binary64.same x y = true) (operator : Operator) (v : Number) :
    compares operator v (.float x) = compares operator v (.float y) := by
  rw [compares, compares, Number.compare_float, Number.compare_float, Binary64.compare_of_same h]

theorem compares_float_iff_relates (operator : Operator) {z : Binary64} :
    compares operator (.float z) (.float x) = true ↔
      z ≠ .nan ∧ x ≠ .nan ∧ operator.relates z.place x.place := by
  by_cases hz : z = .nan
  · simp [hz, compares, Number.compare, Binary64.compare]
  by_cases hx : x = .nan
  · cases z <;> simp [hx, compares, Number.compare, Binary64.compare]
  obtain ⟨order, hcompare, horder⟩ := Binary64.compare_compares hz hx
  rw [compares, Number.compare, hcompare, and_iff_right hz, and_iff_right hx]
  exact operator.holds_iff_relates horder

theorem compares_of_isVoidAt (h : isVoidAt operator (.float x) = true) (v : Number) :
    compares operator v (.float x) = false := by
  rw [compares, Number.compare_float]
  generalize v.toBinary64 = z
  cases x with
  | nan => cases z <;> rfl
  | infinite negative =>
    cases operator <;> cases negative <;> first
      | exact absurd h (by decide)
      | (cases z with
          | nan => rfl
          | infinite a => cases a <;> rfl
          | finite z => rfl)
  | finite x => exact absurd h (by cases operator <;> simp [isVoidAt, Number.isNan])

theorem compares_float (operator : Operator) (v : Number) (x : Binary64) :
    compares operator v (.float x) = compares operator (.float v.toBinary64) (.float x) := by
  rw [compares, compares, Number.compare_float, Number.compare_float, Number.toBinary64]

/-- Which numbers a range with floating-point bounds holds of. -/
theorem holds_within_float_iff {low high z : Binary64} :
    (within (.float low) (.float high)).holds (.number (.float z)) = true ↔
      z ≠ .nan ∧ low ≠ .nan ∧ high ≠ .nan ∧ low.place ≤ z.place ∧ z.place ≤ high.place := by
  rw [holds, Bool.and_eq_true, compares_float_iff_relates, compares_float_iff_relates]
  simp only [Operator.relates]
  tauto

theorem isVoid_within_float_iff {low high : Binary64} :
    (within (.float low) (.float high)).isVoid = false ↔
      low ≠ .nan ∧ high ≠ .nan ∧ low.place ≤ high.place := by
  rw [isVoid, Bool.not_eq_false']
  exact compares_float_iff_relates .atMost

theorem holds_of_isVoid_within {low high : Binary64}
    (h : (within (.float low) (.float high)).isVoid = true) (v : Number) :
    (within (.float low) (.float high)).holds (.number v) = false := by
  have hfloat : (within (.float low) (.float high)).holds (.number v) =
      (within (.float low) (.float high)).holds (.number (.float v.toBinary64)) := by
    rw [holds, holds, compares_float .atLeast v, compares_float .atMost v]
  rw [hfloat, Bool.eq_false_iff]
  intro hholds
  obtain ⟨_, hlow, hhigh, hleft, hright⟩ := holds_within_float_iff.mp hholds
  have hvoid := isVoid_within_float_iff.mpr ⟨hlow, hhigh, hleft.trans hright⟩
  rw [h] at hvoid
  exact absurd hvoid (by decide)

/-- A range that holds of its own bounds is known from the numbers it holds of. -/
theorem same_within_of_agree {low high low' high' : Binary64}
    (hvoid : (within (.float low) (.float high)).isVoid = false)
    (hagree : ∀ v : Number, (within (.float low) (.float high)).holds (.number v) =
      (within (.float low') (.float high')).holds (.number v)) :
    (within (.float low) (.float high)).same (within (.float low') (.float high')) = true := by
  obtain ⟨hlow, hhigh, hle⟩ := isVoid_within_float_iff.mp hvoid
  have hfirst := holds_within_float_iff.mpr ⟨hlow, hlow, hhigh, le_rfl, hle⟩
  have hlast := holds_within_float_iff.mpr ⟨hhigh, hlow, hhigh, hle, le_rfl⟩
  rw [hagree] at hfirst hlast
  obtain ⟨_, hlow', hhigh', hll', hlh'⟩ := holds_within_float_iff.mp hfirst
  obtain ⟨_, _, _, _, hhh'⟩ := holds_within_float_iff.mp hlast
  have hle' := hll'.trans hlh'
  have hfirst' := holds_within_float_iff.mpr ⟨hlow', hlow', hhigh', le_rfl, hle'⟩
  have hlast' := holds_within_float_iff.mpr ⟨hhigh', hlow', hhigh', hle', le_rfl⟩
  rw [← hagree] at hfirst' hlast'
  obtain ⟨_, _, _, hl'l, _⟩ := holds_within_float_iff.mp hfirst'
  obtain ⟨_, _, _, _, hh'h⟩ := holds_within_float_iff.mp hlast'
  rw [same, Bool.and_eq_true]
  exact ⟨Binary64.same_of_place_eq hlow hlow' (hl'l.antisymm hll'),
    Binary64.same_of_place_eq hhigh hhigh' (hhh'.antisymm hh'h)⟩

theorem agree_within_iff {low high low' high' : Binary64} :
    (∀ v : Number, (within (.float low) (.float high)).holds (.number v) =
        (within (.float low') (.float high')).holds (.number v)) ↔
      (within (.float low) (.float high)).same (within (.float low') (.float high')) = true ∨
        ((within (.float low) (.float high)).isVoid = true ∧
          (within (.float low') (.float high')).isVoid = true) := by
  constructor
  · intro hagree
    cases hvoid : (within (.float low) (.float high)).isVoid with
    | false => exact Or.inl (same_within_of_agree hvoid hagree)
    | true =>
      cases hvoid' : (within (.float low') (.float high')).isVoid with
      | true => exact Or.inr ⟨rfl, rfl⟩
      | false =>
        obtain ⟨hlow, hhigh, hle⟩ := isVoid_within_float_iff.mp hvoid'
        have hholds := holds_within_float_iff.mpr ⟨hlow, hlow, hhigh, le_rfl, hle⟩
        rw [← hagree, holds_of_isVoid_within hvoid] at hholds
        exact absurd hholds (by decide)
  · rintro (hsame | ⟨hvoid, hvoid'⟩) v
    · obtain ⟨hlow, hhigh⟩ := (Bool.and_eq_true _ _).mp hsame
      rw [holds, holds, compares_of_same hlow, compares_of_same hhigh]
    · rw [holds_of_isVoid_within hvoid, holds_of_isVoid_within hvoid']

/-- The numbers at which conditions with one operand that is not finite differ. -/
def probes : List Binary64 := [.infinite false, .infinite true, .finite (.zero false)]

theorem not_same_probed : ∀ operator ∈ Operator.singles,
    ∀ x ∈ [.nan, .infinite false, .infinite true], ∀ y ∈ [.nan, .infinite false, .infinite true],
      (∀ z ∈ probes, compares operator (.float z) (.float x) =
        compares operator (.float z) (.float y)) →
      Binary64.same x y = true ∨
        (isVoidAt operator (.float x) = true ∧ isVoidAt operator (.float y) = true) := by
  decide

theorem agree_single_iff (hoperator : operator ∈ Operator.singles)
    (hform : Binary64.same x y = true ∨ (x.isFinite = false ∧ y.isFinite = false)) :
    (∀ v, compares operator v (.float x) = compares operator v (.float y)) ↔
      Binary64.same x y = true ∨
        (isVoidAt operator (.float x) = true ∧ isVoidAt operator (.float y) = true) := by
  have hmem {z : Binary64} (h : z.isFinite = false) :
      z ∈ [.nan, .infinite false, .infinite true] := by
    cases z with
    | nan => exact List.mem_cons_self
    | infinite negative => cases negative <;> decide
    | finite z => exact nomatch h
  constructor
  · intro hagree
    rcases hform with hsame | ⟨hx, hy⟩
    · exact Or.inl hsame
    · exact not_same_probed operator hoperator x (hmem hx) y (hmem hy) fun z _ => hagree (.float z)
  · rintro (hsame | ⟨hx, hy⟩) v
    · exact compares_of_same hsame operator v
    · rw [compares_of_isVoidAt hx, compares_of_isVoidAt hy]

/-! ## Conditions of one form -/

/-- The two conditions have the same text in the data format, or equal values. -/
def SameForm (c d : Condition) : Prop :=
  c.toJson.compact = d.toJson.compact ∨ c.toJson.same d.toJson = true

theorem same_toJson (c d : Condition) : c.toJson.same d.toJson =
    (c.operator.tag == d.operator.tag && c.operandJson.same d.operandJson) :=
  congrArg (c.operator.tag == d.operator.tag && ·) (Bool.and_true _)

theorem same_operandJson_within (low high low' high' : Number) :
    (within low high).operandJson.same (within low' high').operandJson =
      (low.toJson.same low'.toJson && high.toJson.same high'.toJson) :=
  congrArg (low.toJson.same low'.toJson && ·) (Bool.and_true _)

theorem SameForm.parts (h : SameForm c d) :
    c.operator = d.operator ∧ c.operandJson.same d.operandJson = true := by
  have hsame : c.toJson.same d.toJson = true := by
    rcases h with htext | hsame
    · rw [Json.compact_injective htext]
      exact Json.same_self _
    · exact hsame
  rw [same_toJson, Bool.and_eq_true] at hsame
  exact ⟨Operator.tag_injective (eq_of_beq hsame.1), hsame.2⟩

theorem float_of_isRead (h : IsRead .float n) : ∃ x, n = .float x := by
  obtain ⟨cs, hread⟩ := h
  obtain ⟨x, _, rfl⟩ := Option.map_eq_some_iff.mp hread
  exact ⟨x, rfl⟩

theorem isNan_of_isRead {type : FieldType} (htype : type ≠ .float) (h : IsRead type n) :
    n.isNan = false := by
  cases type with
  | integer =>
    obtain ⟨k, rfl⟩ := signed_of_isRead h
    rfl
  | decimal =>
    obtain ⟨d, rfl⟩ := decimal_of_isRead h
    rfl
  | float => exact absurd rfl htype
  | _ =>
    obtain ⟨cs, hcs⟩ := h
    exact nomatch hcs

variable {type : FieldType} {raw other : String}

/-- Two conditions of one form have the same operator and operands that are written alike. -/
theorem exists_operands_of_same_form [RegexLibrary] (htype : type.isNumeric = true)
    (hc : classify type raw = .ok c) (hd : classify type other = .ok d) (hform : SameForm c d) :
    (∃ operator ∈ Operator.singles, ∃ m n, c = single operator m ∧ d = single operator n ∧
      IsRead type m ∧ IsRead type n ∧ m.toJson.same n.toJson = true) ∨
    ∃ low high low' high', c = within low high ∧ d = within low' high' ∧
      (IsRead type low ∧ IsRead type low' ∧ low.toJson.same low'.toJson = true) ∧
      IsRead type high ∧ IsRead type high' ∧ high.toJson.same high'.toJson = true := by
  obtain ⟨hoperator, hoperand⟩ := hform.parts
  have hwithin : ∀ low high, (within low high).operator ∉ Operator.singles := by
    intro low high hmem
    exact absurd (show Operator.within ∈ Operator.singles from hmem) (by decide)
  rcases exists_operands_of_classify htype hc with
    ⟨operator, hmem, m, rfl, hm⟩ | ⟨low, high, rfl, hlow, hhigh⟩
  · rcases exists_operands_of_classify htype hd with
      ⟨operator', hmem', n, rfl, hn⟩ | ⟨low', high', rfl, _, _⟩
    · rw [operator_single hmem, operator_single hmem'] at hoperator
      subst hoperator
      rw [operandJson_single hmem, operandJson_single hmem] at hoperand
      exact Or.inl ⟨operator, hmem, m, n, rfl, rfl, hm, hn, hoperand⟩
    · rw [operator_single hmem] at hoperator
      exact absurd (hoperator ▸ hmem) (hwithin low' high')
  · rcases exists_operands_of_classify htype hd with
      ⟨operator', hmem', n, rfl, _⟩ | ⟨low', high', rfl, hlow', hhigh'⟩
    · rw [operator_single hmem'] at hoperator
      exact absurd (hoperator ▸ hmem') (hwithin low high)
    · rw [same_operandJson_within, Bool.and_eq_true] at hoperand
      exact Or.inr ⟨low, high, low', high', rfl, rfl, ⟨hlow, hlow', hoperand.1⟩,
        hhigh, hhigh', hoperand.2⟩

/-- Conditions of one form on an integer or decimal field are one condition. -/
theorem eq_of_same_form [RegexLibrary] (htype : type.isNumeric = true) (hfloat : type ≠ .float)
    (hc : classify type raw = .ok c) (hd : classify type other = .ok d) (hform : SameForm c d) :
    c = d ∧ c.same d = true := by
  rcases exists_operands_of_same_form htype hc hd hform with
    ⟨operator, hmem, m, n, rfl, rfl, hm, hn, hmn⟩ |
    ⟨low, high, low', high', rfl, rfl, ⟨hlow, hlow', hl⟩, hhigh, hhigh', hh⟩
  · obtain rfl := Number.eq_of_toJson hfloat hm hn hmn
    rw [same_single hmem]
    exact ⟨rfl, Number.same_self (isNan_of_isRead hfloat hm)⟩
  · obtain rfl := Number.eq_of_toJson hfloat hlow hlow' hl
    obtain rfl := Number.eq_of_toJson hfloat hhigh hhigh' hh
    refine ⟨rfl, ?_⟩
    rw [same, Number.same_self (isNan_of_isRead hfloat hlow),
      Number.same_self (isNan_of_isRead hfloat hhigh)]
    rfl

/-- Conditions that are read for one numeric field and have the same form judge all numbers alike
if and only if they are the same condition or hold of no number at all. Those that are not the
same are on a floating-point field, and each has an operand that is not finite. -/
theorem agree_iff_of_same_form [RegexLibrary] (htype : type.isNumeric = true)
    (hc : classify type raw = .ok c) (hd : classify type other = .ok d) (hform : SameForm c d) :
    ((∀ v : Number, c.holds (.number v) = d.holds (.number v)) ↔
      c.same d = true ∨ (c.isVoid = true ∧ d.isVoid = true)) ∧
    (c.same d = false → type = .float ∧
      (∃ x, Number.float x ∈ c.operands ∧ x.isFinite = false) ∧
      ∃ y, Number.float y ∈ d.operands ∧ y.isFinite = false) := by
  by_cases hfloat : type = .float
  · subst hfloat
    rcases exists_operands_of_same_form htype hc hd hform with
      ⟨operator, hmem, m, n, rfl, rfl, hm, hn, hmn⟩ |
      ⟨low, high, low', high', rfl, rfl, ⟨hlow, hlow', hl⟩, hhigh, hhigh', hh⟩
    · obtain ⟨x, rfl⟩ := float_of_isRead hm
      obtain ⟨y, rfl⟩ := float_of_isRead hn
      have hxy := Number.same_of_toJson_float hmn
      simp only [holds_single hmem, same_single hmem, isVoid_single hmem, operands_single hmem]
      refine ⟨agree_single_iff hmem hxy, fun hdiffer => ⟨trivial, ?_⟩⟩
      rcases hxy with hsame | ⟨hx, hy⟩
      · exact absurd (hsame.symm.trans hdiffer) (by decide)
      · exact ⟨⟨x, List.mem_singleton_self _, hx⟩, ⟨y, List.mem_singleton_self _, hy⟩⟩
    · obtain ⟨x, rfl⟩ := float_of_isRead hlow
      obtain ⟨y, rfl⟩ := float_of_isRead hhigh
      obtain ⟨x', rfl⟩ := float_of_isRead hlow'
      obtain ⟨y', rfl⟩ := float_of_isRead hhigh'
      refine ⟨agree_within_iff, fun hdiffer => ⟨rfl, ?_⟩⟩
      rcases Number.same_of_toJson_float hl with hsame | ⟨hx, hx'⟩
      · rcases Number.same_of_toJson_float hh with hsame' | ⟨hy, hy'⟩
        · rw [same, Number.same, Number.same, hsame, hsame'] at hdiffer
          exact absurd hdiffer (by decide)
        · exact ⟨⟨y, by simp [operands], hy⟩, ⟨y', by simp [operands], hy'⟩⟩
      · exact ⟨⟨x, by simp [operands], hx⟩, ⟨x', by simp [operands], hx'⟩⟩
  · obtain ⟨rfl, hsame⟩ := eq_of_same_form htype hfloat hc hd hform
    exact ⟨iff_of_true (fun _ => rfl) (Or.inl hsame),
      fun hdiffer => absurd (hsame.symm.trans hdiffer) (by decide)⟩

/-- The conditions above minus and plus infinity have the same form, but only the first holds of
any number, and it holds of zero. -/
theorem agree_iff_of_same_form_of_infinities :
    letI : RegexLibrary := .permissive
    let c := above (.float (.infinite true))
    let d := above (.float (.infinite false))
    classify .float ">-inf" = .ok c ∧ classify .float ">inf" = .ok d ∧ SameForm c d ∧
      c.same d = false ∧ c.isVoid = false ∧
      ¬ ∀ v : Number, c.holds (.number v) = d.holds (.number v) := by
  let : RegexLibrary := .permissive
  intro c d
  have hc : classify .float ">-inf" = .ok c := rfl
  have hd : classify .float ">inf" = .ok d := rfl
  have hform : SameForm c d := Or.inl rfl
  have htype : FieldType.float.isNumeric = true := rfl
  have hiff := (agree_iff_of_same_form htype hc hd hform).1
  refine ⟨hc, hd, hform, rfl, rfl, fun hagree => ?_⟩
  rcases hiff.mp hagree with hsame | ⟨hvoid, _⟩
  · exact absurd hsame (by decide)
  · exact absurd hvoid (by decide)

/-- The form of a condition does not say which numbers it holds of. -/
theorem form_hides_infinities :
    letI : RegexLibrary := .permissive
    ¬ ∀ (type : FieldType) (raw other : String) (c d : Condition), type.isNumeric = true →
      classify type raw = .ok c → classify type other = .ok d → SameForm c d →
      ∀ v : Number, c.holds (.number v) = d.holds (.number v) := by
  let : RegexLibrary := .permissive
  intro h
  have hzero := h .float ">-inf" ">inf" (above (.float (.infinite true)))
    (above (.float (.infinite false))) rfl rfl rfl (Or.inl rfl)
    (.float (.finite (.zero false)))
  exact absurd hzero (by decide)

end Condition

end RecordQuery
