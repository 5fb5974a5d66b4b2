import RecordQuery.Proofs.Condition.NumberForms
import RecordQuery.Proofs.Numeric.Exact

/-!
# Exactness of numeric conditions

What a condition on an integer or decimal field says about the exact value of a record, and when it
is judged otherwise. The operands of an integer field have a sign while numbers of records may have
none, and such a pair is compared after rounding both.
-/

namespace RecordQuery

/-! ## Operands -/

namespace Condition

/-- The numbers that a condition compares with. -/
def operands : Condition → List Number
  | exact (.number n) => [n]
  | atLeast n | atMost n | above n | below n => [n]
  | within low high => [low, high]
  | _ => []

def IsRead (type : FieldType) (n : Number) : Prop := ∃ cs, type.readNumber? cs = some n

theorem isRead_of_form {type : FieldType} {form : NumberForm} {condition : Condition}
    (h : form.read? type = some condition) {n : Number} (hn : n ∈ condition.operands) :
    IsRead type n := by
  cases form with
  | number text =>
    obtain ⟨m, hm, rfl⟩ := Option.map_eq_some_iff.mp h
    obtain rfl := List.mem_singleton.mp hn
    exact ⟨_, hm⟩
  | compared comparison text =>
    obtain ⟨m, hm, rfl⟩ := Option.map_eq_some_iff.mp h
    have hoperands : (comparison.condition m).operands = [m] := by
      cases comparison <;> rfl
    rw [hoperands] at hn
    obtain rfl := List.mem_singleton.mp hn
    exact ⟨_, hm⟩
  | range low high =>
    obtain ⟨x, hx, hrest⟩ := Option.bind_eq_some_iff.mp h
    obtain ⟨y, hy, rfl⟩ := Option.map_eq_some_iff.mp hrest
    rcases List.mem_cons.mp hn with rfl | hn
    · exact ⟨_, hx⟩
    · obtain rfl := List.mem_singleton.mp hn
      exact ⟨_, hy⟩

theorem exists_form_of_ofNumberText {type : FieldType} {raw : String} {condition : Condition}
    (h : ofNumberText type raw = .ok condition) :
    ∃ form : NumberForm, form.read? type = some condition := by
  rw [ofNumberText_eq] at h
  split at h
  · rename_i found hfound
    obtain rfl := Except.ok.inj h
    obtain ⟨form, _, hform⟩ := exists_form_of_readTrimmed? hfound
    exact ⟨form, hform⟩
  · exact absurd h (by simp)

theorem signed_of_isRead {n : Number} (h : IsRead .integer n) : ∃ k, n = .signed k := by
  obtain ⟨cs, hread⟩ := h
  obtain ⟨k, _, rfl⟩ := Option.map_eq_some_iff.mp hread
  exact ⟨k, rfl⟩

theorem decimal_of_isRead {n : Number} (h : IsRead .decimal n) : ∃ d, n = .decimal d := by
  obtain ⟨cs, hread⟩ := h
  obtain ⟨d, _, rfl⟩ := Option.map_eq_some_iff.mp hread
  exact ⟨d, rfl⟩

end Condition

/-! ## Relations between places in an order -/

section Relations

variable {α : Type} [LinearOrder α]

def Operator.relates (operator : Operator) (a operand : α) : Prop :=
  match operator with
  | exact => a = operand
  | above => operand < a
  | atLeast => operand ≤ a
  | below => a < operand
  | atMost => a ≤ operand
  | _ => False

theorem Operator.holds_iff_relates (operator : Operator) {order : Ordering} {a operand : α}
    (h : order.Compares a operand) : operator.holds order = true ↔ operator.relates a operand := by
  cases order with
  | lt =>
    have hlt : a < operand := h
    cases operator <;> simp [holds, relates, hlt, hlt.le, hlt.ne, hlt.not_gt, hlt.not_ge]
  | eq =>
    have heq : a = operand := h
    cases operator <;> simp [holds, relates, heq]
  | gt =>
    have hgt : operand < a := h
    cases operator <;> simp [holds, relates, hgt, hgt.le, hgt.ne', hgt.not_gt, hgt.not_ge]

end Relations

namespace Condition

/-- What a numeric condition says of a number, in exact values. -/
def Says : Condition → Number → Prop
  | exact (.number n), v => v.toRat = n.toRat
  | atLeast n, v => n.toRat ≤ v.toRat
  | atMost n, v => v.toRat ≤ n.toRat
  | above n, v => n.toRat < v.toRat
  | below n, v => v.toRat < n.toRat
  | within low high, v => low.toRat ≤ v.toRat ∧ v.toRat ≤ high.toRat
  | _, _ => False

/-- The operand that the number is mistaken for makes the difference to what the condition says. -/
def Misjudges : Condition → Number → Prop
  | exact (.number n), v => v.isMistakenFor n = true
  | atLeast n, v | below n, v => v.isMistakenFor n = true ∧ v.toRat < n.toRat
  | atMost n, v | above n, v => v.isMistakenFor n = true ∧ n.toRat < v.toRat
  | within low high, v =>
    (v.isMistakenFor low = true ∧ v.toRat < low.toRat ∧
        (v.toRat ≤ high.toRat ∨ v.isMistakenFor high = true)) ∨
      (v.isMistakenFor high = true ∧ high.toRat < v.toRat ∧
        (low.toRat ≤ v.toRat ∨ v.isMistakenFor low = true))
  | _, _ => False

/-! ## Judging numbers -/

/-- The value that a comparison takes an operand for. -/
def seen (v n : Number) : ℚ := if v.isMistakenFor n then v.toRat else n.toRat

theorem seen_of_isMistakenFor {v n : Number} (h : v.isMistakenFor n = true) :
    seen v n = v.toRat := if_pos h

theorem seen_of_not_isMistakenFor {v n : Number} (h : v.isMistakenFor n = false) :
    seen v n = n.toRat := if_neg (by simp [h])

theorem compares_iff_relates (operator : Operator) {v n : Number} (hv : v.isFloat = false)
    (hn : n.isFloat = false) :
    compares operator v n = true ↔ operator.relates v.toRat (seen v n) := by
  cases h : v.isMistakenFor n with
  | true =>
    have horder : Ordering.eq.Compares v.toRat v.toRat := rfl
    rw [compares, Number.compare_of_isMistakenFor h, seen_of_isMistakenFor h]
    exact operator.holds_iff_relates horder
  | false =>
    obtain ⟨order, hcompare, horder⟩ := Number.compare_compares hv hn h
    rw [compares, hcompare, seen_of_not_isMistakenFor h]
    exact operator.holds_iff_relates horder

theorem seen_le_iff {v n : Number} :
    seen v n ≤ v.toRat ↔ n.toRat ≤ v.toRat ∨ v.isMistakenFor n = true := by
  cases h : v.isMistakenFor n with
  | true => simp [seen_of_isMistakenFor h]
  | false => simp [seen_of_not_isMistakenFor h]

theorem le_seen_iff {v n : Number} :
    v.toRat ≤ seen v n ↔ v.toRat ≤ n.toRat ∨ v.isMistakenFor n = true := by
  cases h : v.isMistakenFor n with
  | true => simp [seen_of_isMistakenFor h]
  | false => simp [seen_of_not_isMistakenFor h]

/-- A comparison errs where the number is mistaken for the operand and does not stand to itself as
it stands to the operand. -/
theorem compares_iff_relates_iff (operator : Operator) {v n : Number} (hv : v.isFloat = false)
    (hn : n.isFloat = false) :
    (compares operator v n = true ↔ operator.relates v.toRat n.toRat) ↔
      ¬ (v.isMistakenFor n = true ∧
        ¬ (operator.relates v.toRat v.toRat ↔ operator.relates v.toRat n.toRat)) := by
  rw [compares_iff_relates operator hv hn]
  cases h : v.isMistakenFor n with
  | true => simp [seen_of_isMistakenFor h]
  | false => simp [seen_of_not_isMistakenFor h]

theorem holds_within_iff {low high v : Number} (hv : v.isFloat = false)
    (hlow : low.isFloat = false) (hhigh : high.isFloat = false) :
    (within low high).holds (.number v) = true ↔
      (low.toRat ≤ v.toRat ∨ v.isMistakenFor low = true) ∧
        (v.toRat ≤ high.toRat ∨ v.isMistakenFor high = true) := by
  rw [holds, Bool.and_eq_true, compares_iff_relates .atLeast hv hlow,
    compares_iff_relates .atMost hv hhigh]
  exact and_congr seen_le_iff le_seen_iff

/-- A condition with exact operands is judged by exact values, except where it misjudges. -/
theorem holds_iff_says_iff {condition : Condition} {v : Number} (hv : v.isFloat = false)
    (hoperands : ∀ n ∈ condition.operands, n.isFloat = false) :
    (condition.holds (.number v) = true ↔ condition.Says v) ↔ ¬ condition.Misjudges v := by
  cases condition with
  | exact operand =>
    cases operand with
    | text s => simp [holds, Says, Misjudges]
    | bool b => simp [holds, Says, Misjudges]
    | number n =>
      have hn : n.isFloat = false := hoperands n (List.mem_singleton_self n)
      have hne : v.isMistakenFor n = true → v.toRat ≠ n.toRat := Number.ne_of_isMistakenFor
      have hone := compares_iff_relates_iff .exact hv hn
      simp only [Operator.relates, true_iff, and_iff_left_of_imp hne] at hone
      exact hone
  | startsWith part => simp [holds, Says, Misjudges]
  | endsWith part => simp [holds, Says, Misjudges]
  | contains part => simp [holds, Says, Misjudges]
  | wildcard glob => simp [holds, Says, Misjudges]
  | atLeast n =>
    have hn : n.isFloat = false := hoperands n (List.mem_singleton_self n)
    have hone := compares_iff_relates_iff .atLeast hv hn
    simp only [Operator.relates, le_refl, true_iff, not_le] at hone
    exact hone
  | atMost n =>
    have hn : n.isFloat = false := hoperands n (List.mem_singleton_self n)
    have hone := compares_iff_relates_iff .atMost hv hn
    simp only [Operator.relates, le_refl, true_iff, not_le] at hone
    exact hone
  | above n =>
    have hn : n.isFloat = false := hoperands n (List.mem_singleton_self n)
    have hone := compares_iff_relates_iff .above hv hn
    simp only [Operator.relates, lt_irrefl, false_iff, not_not] at hone
    exact hone
  | below n =>
    have hn : n.isFloat = false := hoperands n (List.mem_singleton_self n)
    have hone := compares_iff_relates_iff .below hv hn
    simp only [Operator.relates, lt_irrefl, false_iff, not_not] at hone
    exact hone
  | within low high =>
    have hlow : low.isFloat = false := hoperands low (by simp [operands])
    have hhigh : high.isFloat = false := hoperands high (by simp [operands])
    rw [holds_within_iff hv hlow hhigh]
    rcases le_or_gt low.toRat v.toRat with hl | hl
    · rcases le_or_gt v.toRat high.toRat with hh | hh
      · simp [Says, Misjudges, hl, hh, hl.not_gt, hh.not_gt]
      · simp [Says, Misjudges, hl, hh, hl.not_gt, hh.not_ge]
    · rcases le_or_gt v.toRat high.toRat with hh | hh
      · simp [Says, Misjudges, hl, hh, hl.not_ge, hh.not_gt]
      · simp [Says, Misjudges, hl, hh, hl.not_ge, hh.not_ge, and_comm]

theorem isRead_of_classify [RegexLibrary] {type : FieldType}
    (htype : type = .integer ∨ type = .decimal) {raw : String} {condition : Condition}
    (h : classify type raw = .ok condition) {n : Number} (hn : n ∈ condition.operands) :
    IsRead type n := by
  have hnumeric : type.isNumeric = true := by
    rcases htype with rfl | rfl <;> rfl
  rw [classify_of_isNumeric hnumeric] at h
  obtain ⟨form, hform⟩ := exists_form_of_ofNumberText h
  exact isRead_of_form hform hn

theorem exists_of_misjudges {condition : Condition} {v : Number} (h : condition.Misjudges v) :
    ∃ n ∈ condition.operands, v.isMistakenFor n = true := by
  cases condition with
  | exact operand =>
    cases operand with
    | text s => exact absurd h id
    | bool b => exact absurd h id
    | number n => exact ⟨n, List.mem_singleton_self n, h⟩
  | startsWith part => exact absurd h id
  | endsWith part => exact absurd h id
  | contains part => exact absurd h id
  | wildcard glob => exact absurd h id
  | atLeast n => exact ⟨n, List.mem_singleton_self n, h.1⟩
  | atMost n => exact ⟨n, List.mem_singleton_self n, h.1⟩
  | above n => exact ⟨n, List.mem_singleton_self n, h.1⟩
  | below n => exact ⟨n, List.mem_singleton_self n, h.1⟩
  | within low high =>
    rcases h with ⟨hlow, _⟩ | ⟨hhigh, _⟩
    · exact ⟨low, by simp [operands], hlow⟩
    · exact ⟨high, by simp [operands], hhigh⟩

/-- A condition read for an integer or decimal field holds of an integer or decimal exactly when
it says so of their exact values, except where it misjudges. It does so for integer fields and
numbers without a sign alone, and only where the number and an operand are different integers of
at least `2 ^ 53` with the same nearest floating-point number. -/
theorem holds_iff_says_of_classify [RegexLibrary] {type : FieldType}
    (htype : type = .integer ∨ type = .decimal) {raw : String} {condition : Condition}
    (hread : classify type raw = .ok condition) {v : Number} (hv : v.isFloat = false) :
    ((condition.holds (.number v) = true ↔ condition.Says v) ↔ ¬ condition.Misjudges v) ∧
    (condition.Misjudges v → type = .integer ∧ ∃ m k, v = .unsigned m ∧
      .signed k ∈ condition.operands ∧ (m.toNat : Int) ≠ k.toInt ∧
      Binary64.same (.ofInt m.toNat) (.ofInt k.toInt) = true ∧
      2 ^ 53 ≤ m.toNat ∧ 2 ^ 53 ≤ k.toInt) := by
  constructor
  · apply holds_iff_says_iff hv
    intro n hn
    rcases htype with rfl | rfl
    · obtain ⟨k, rfl⟩ := signed_of_isRead (isRead_of_classify (Or.inl rfl) hread hn)
      rfl
    · obtain ⟨d, rfl⟩ := decimal_of_isRead (isRead_of_classify (Or.inr rfl) hread hn)
      rfl
  · intro hmisjudges
    obtain ⟨n, hn, hmistaken⟩ := exists_of_misjudges hmisjudges
    rcases htype with rfl | rfl
    · obtain ⟨k, rfl⟩ := signed_of_isRead (isRead_of_classify (Or.inl rfl) hread hn)
      cases v with
      | signed m => exact absurd hmistaken (by simp [Number.isMistakenFor])
      | float x => exact absurd hv (by simp [Number.isFloat])
      | decimal d => exact absurd hmistaken (by simp [Number.isMistakenFor])
      | unsigned m =>
        obtain ⟨hm, hk⟩ := Number.le_of_isMistakenFor hmistaken
        rw [Number.isMistakenFor_unsigned_signed] at hmistaken
        obtain ⟨hne, hsame⟩ := (Bool.and_eq_true _ _).mp hmistaken
        exact ⟨rfl, m, k, rfl, hn, bne_iff_ne.mp hne, hsame, hm, hk⟩
    · obtain ⟨d, rfl⟩ := decimal_of_isRead (isRead_of_classify (Or.inr rfl) hread hn)
      cases v <;> exact absurd hmistaken (by simp [Number.isMistakenFor])

/-- A range on an integer field and a number below its least operand that is mistaken for it: the
condition misjudges the number. -/
theorem holds_iff_says_of_mistaken_bound :
    letI : RegexLibrary := .permissive
    let raw := "9007199254740993-9007199254740999"
    let condition := within (.signed 9007199254740993) (.signed 9007199254740999)
    let v : Number := .unsigned 9007199254740992
    classify .integer raw = .ok condition ∧ v.isFloat = false ∧ condition.Misjudges v ∧
      ¬ (condition.holds (.number v) = true ↔ condition.Says v) := by
  let : RegexLibrary := .permissive
  intro raw condition v
  have hread : classify .integer raw = .ok condition := by decide
  have hmisjudges : condition.Misjudges v := by
    refine Or.inl ⟨by set_option maxRecDepth 2000 in decide, ?_, Or.inl ?_⟩
    · exact Nat.cast_lt.mpr (by decide : 9007199254740992 < 9007199254740993)
    · exact Nat.cast_le.mpr (by decide : 9007199254740992 ≤ 9007199254740999)
  obtain ⟨hiff, _⟩ := holds_iff_says_of_classify (Or.inl rfl) hread (v := v) rfl
  exact ⟨hread, rfl, hmisjudges, fun h => hiff.mp h hmisjudges⟩

/-- A condition for one number holds of another one. -/
theorem exact_holds_of_other_number :
    letI : RegexLibrary := .permissive
    let condition := exact (.number (.signed 9007199254740993))
    let v : Number := .unsigned 9007199254740992
    classify .integer "9007199254740993" = .ok condition ∧ condition.holds (.number v) = true ∧
      ¬ condition.Says v := by
  let : RegexLibrary := .permissive
  intro condition v
  refine ⟨by decide, by set_option maxRecDepth 2000 in decide, ?_⟩
  intro h
  have heq : ((9007199254740992 : Nat) : ℚ) = ((9007199254740993 : Nat) : ℚ) := h
  exact absurd (Nat.cast_injective heq) (by decide)

end Condition

end RecordQuery
