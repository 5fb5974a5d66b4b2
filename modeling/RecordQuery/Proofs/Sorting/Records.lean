import Mathlib.Data.String.Basic
import Mathlib.Data.Sum.Order
import RecordQuery.Proofs.Numeric.Comparison
import RecordQuery.Sorting

/-!
# The order of records

To turn two records round is to turn their order round, whatever they hold. The order is transitive
where the values under each key can be compared: a value of another kind and a quiet error count as
equal to everything, and a chain through one of them says nothing about its ends.
-/

namespace RecordQuery

namespace Value

/-- A missing value goes with every value; other values go with those of their kind. -/
def Commensurable : Value → Value → Prop
  | missing, _ => True
  | _, missing => True
  | text _, text _ => True
  | bool _, bool _ => True
  | number m, number n => m.Commensurable n
  | _, _ => False

theorem compare_swap (a b : Value) : compare b a = (compare a b).map Ordering.swap := by
  cases a with
  | text s =>
    cases b with
    | text t => exact congrArg some Std.OrientedOrd.eq_swap
    | number n | bool b | missing => rfl
  | number m =>
    cases b with
    | number n => exact Number.compare_swap m n
    | text t | bool b | missing => rfl
  | bool a =>
    cases b with
    | bool b => exact congrArg some Std.OrientedOrd.eq_swap
    | text t | number n | missing => rfl
  | missing => cases b <;> rfl

/-- The kinds of values one behind the other, each in its own order. -/
abbrev Content : Type := String ⊕ₗ (Bool ⊕ₗ WithBot (WithTop ℚ))

/-- What a value holds. A missing value holds nothing and is given the empty text. -/
def content : Value → Content
  | text s => toLex (.inl s)
  | bool b => toLex (.inr (toLex (.inl b)))
  | number n => toLex (.inr (toLex (.inr n.place)))
  | missing => toLex (.inl "")

theorem compare_compares_content {a b : Value} (ha : a ≠ missing) (hb : b ≠ missing)
    (h : a.Commensurable b) :
    ∃ order, compare a b = some order ∧ order.Compares a.content b.content := by
  cases a with
  | missing => exact absurd rfl ha
  | text s =>
    cases b with
    | missing => exact absurd rfl hb
    | number n | bool b => exact h.elim
    | text t =>
      refine ⟨_, rfl, ?_⟩
      exact (Sum.Lex.inl_strictMono.compares).mpr ((compare_iff s t).mp rfl)
  | bool a =>
    cases b with
    | missing => exact absurd rfl hb
    | text t | number n => exact h.elim
    | bool b =>
      refine ⟨_, rfl, ?_⟩
      apply (Sum.Lex.inr_strictMono.compares).mpr
      exact (Sum.Lex.inl_strictMono.compares).mpr ((compare_iff a b).mp rfl)
  | number m =>
    cases b with
    | missing => exact absurd rfl hb
    | text t | bool b => exact h.elim
    | number n =>
      obtain ⟨order, hcompare, horder⟩ := Number.compare_compares_place h
      refine ⟨order, hcompare, ?_⟩
      apply (Sum.Lex.inr_strictMono.compares).mpr
      exact (Sum.Lex.inr_strictMono.compares).mpr horder

/-- A place for what a value holds, and the last place for a missing value. -/
def placeIn {α : Type} (f : Content → α) (v : Value) : WithTop α :=
  if v = missing then ⊤ else (f v.content : WithTop α)

end Value

namespace SortKey

open Value (Content Commensurable)

variable {key : SortKey} {keys : List SortKey} {a b c : Record} {v w : Value}

/-! ## One key -/

theorem compare_of_present (key : SortKey) (hv : v ≠ .missing) (hw : w ≠ .missing) :
    key.compare v w = (Value.compare v w).map key.direction.apply := by
  cases v with
  | missing => exact absurd rfl hv
  | text s | number m | bool a =>
    cases w with
    | missing => exact absurd rfl hw
    | text t | number n | bool b => rfl

theorem apply_swap (direction : Direction) (order : Ordering) :
    direction.apply order.swap = (direction.apply order).swap := by
  cases direction <;> rfl

theorem compare_swap (key : SortKey) (v w : Value) :
    key.compare w v = (key.compare v w).map Ordering.swap := by
  by_cases hv : v = .missing
  · rw [hv]
    cases w <;> rfl
  · by_cases hw : w = .missing
    · rw [hw]
      cases v <;> rfl
    · rw [compare_of_present key hv hw, compare_of_present key hw hv, Value.compare_swap v w,
        Option.map_map, Option.map_map]
      congr 1
      funext order
      exact apply_swap key.direction order

/-- Contents in the direction of a key, with the missing values behind them. -/
theorem compare_compares_placeIn {α : Type} [LinearOrder α] {f : Content → α}
    (hf : ∀ (order : Ordering) (x y : Content), order.Compares x y →
      (key.direction.apply order).Compares (f x) (f y)) (h : v.Commensurable w) :
    ∃ order, key.compare v w = some order ∧ order.Compares (v.placeIn f) (w.placeIn f) := by
  by_cases hv : v = .missing
  · by_cases hw : w = .missing
    · rw [hv, hw]
      exact ⟨.eq, rfl, rfl⟩
    · refine ⟨.gt, ?_, ?_⟩
      · rw [hv]
        cases w <;> first | rfl | exact absurd rfl hw
      · rw [Value.placeIn, Value.placeIn, if_pos hv, if_neg hw]
        exact WithTop.coe_lt_top _
  · by_cases hw : w = .missing
    · refine ⟨.lt, ?_, ?_⟩
      · rw [hw]
        cases v <;> first | rfl | exact absurd rfl hv
      · rw [Value.placeIn, Value.placeIn, if_neg hv, if_pos hw]
        exact WithTop.coe_lt_top _
    · obtain ⟨order, hcompare, horder⟩ := Value.compare_compares_content hv hw h
      refine ⟨key.direction.apply order, ?_, ?_⟩
      · rw [compare_of_present key hv hw, hcompare]
        rfl
      · rw [Value.placeIn, Value.placeIn, if_neg hv, if_neg hw]
        exact (WithTop.coe_strictMono.compares).mpr (hf order _ _ horder)

/-- A key puts the values that can be compared in the order of their places in one line. -/
theorem exists_place (key : SortKey) :
    ∃ (α : Type) (_ : LinearOrder α) (place : Value → α), ∀ v w, v.Commensurable w →
      ∃ order, key.compare v w = some order ∧ order.Compares (place v) (place w) := by
  cases hdirection : key.direction with
  | ascending =>
    refine ⟨WithTop Content, inferInstance, Value.placeIn id, fun v w h => ?_⟩
    refine compare_compares_placeIn (fun order x y hxy => ?_) h
    rw [hdirection]
    exact hxy
  | descending =>
    refine ⟨WithTop Contentᵒᵈ, inferInstance, Value.placeIn OrderDual.toDual, fun v w h => ?_⟩
    refine compare_compares_placeIn (fun order x y hxy => ?_) h
    rw [hdirection]
    cases order with
    | lt => exact hxy
    | eq => exact congrArg _ hxy
    | gt => exact hxy

/-! ## All keys -/

/-- The values of the records can be compared under each key up to the first at which they
differ. -/
def CommensurableBy : List SortKey → Record → Record → Prop
  | [], _, _ => True
  | key :: rest, a, b =>
    (key.path.valueOf a).Commensurable (key.path.valueOf b) ∧
      (key.compare (key.path.valueOf a) (key.path.valueOf b) = some .eq → CommensurableBy rest a b)

theorem compareRecords_cons {order : Ordering}
    (h : key.compare (key.path.valueOf a) (key.path.valueOf b) = some order) :
    compareRecords (key :: keys) a b = order.then (compareRecords keys a b) := by
  rw [compareRecords, h]
  cases order <;> rfl

theorem compareRecords_swap (keys : List SortKey) (a b : Record) :
    compareRecords keys b a = (compareRecords keys a b).swap := by
  induction keys with
  | nil => rfl
  | cons key keys ih =>
    have hswap := compare_swap key (key.path.valueOf a) (key.path.valueOf b)
    cases hcompare : key.compare (key.path.valueOf a) (key.path.valueOf b) with
    | none =>
      rw [hcompare] at hswap
      rw [compareRecords, compareRecords, hcompare, hswap]
      exact ih
    | some order =>
      rw [hcompare] at hswap
      rw [compareRecords_cons hcompare, compareRecords_cons hswap, ih]
      cases order <;> rfl

/-- Before the last key at which a chain of records is tied, its places are equal; behind it, the
first place that rises decides. -/
theorem compareRecords_trans (hab : CommensurableBy keys a b) (hbc : CommensurableBy keys b c)
    (hac : CommensurableBy keys a c) (hle : compareRecords keys a b ≠ .gt)
    (hle' : compareRecords keys b c ≠ .gt) : compareRecords keys a c ≠ .gt := by
  induction keys with
  | nil => exact fun h => nomatch h
  | cons key keys ih =>
    obtain ⟨α, _, place, hplace⟩ := exists_place key
    obtain ⟨oab, hoab, hcab⟩ := hplace _ _ hab.1
    obtain ⟨obc, hobc, hcbc⟩ := hplace _ _ hbc.1
    obtain ⟨oac, hoac, hcac⟩ := hplace _ _ hac.1
    rw [compareRecords_cons hoab] at hle
    rw [compareRecords_cons hobc] at hle'
    rw [compareRecords_cons hoac]
    have hfirst : place (key.path.valueOf a) ≤ place (key.path.valueOf b) := by
      cases oab with
      | lt => exact le_of_lt hcab
      | eq => exact le_of_eq hcab
      | gt => exact absurd rfl hle
    have hsecond : place (key.path.valueOf b) ≤ place (key.path.valueOf c) := by
      cases obc with
      | lt => exact le_of_lt hcbc
      | eq => exact le_of_eq hcbc
      | gt => exact absurd rfl hle'
    cases oac with
    | lt => exact fun h => nomatch h
    | gt => exact absurd (hfirst.trans hsecond) (not_le_of_gt hcac)
    | eq =>
      have hends : place (key.path.valueOf c) ≤ place (key.path.valueOf a) := le_of_eq hcac.symm
      obtain rfl : oab = .eq := hcab.eq_eq.mpr (le_antisymm hfirst (hsecond.trans hends))
      obtain rfl : obc = .eq := hcbc.eq_eq.mpr (le_antisymm hsecond (hends.trans hfirst))
      exact ih (hab.2 hoab) (hbc.2 hobc) (hac.2 hoac) hle hle'

/-- A record turned round is compared the other way round. A chain of three records that does not
fall has ends that do not fall, if the values of every two of them can be compared under the keys
that decide. -/
theorem compareRecords_preorder (keys : List SortKey) :
    (∀ a b, compareRecords keys b a = (compareRecords keys a b).swap) ∧
      ∀ a b c, CommensurableBy keys a b → CommensurableBy keys b c → CommensurableBy keys a c →
        compareRecords keys a b ≠ .gt → compareRecords keys b c ≠ .gt →
          compareRecords keys a c ≠ .gt := by
  refine ⟨compareRecords_swap keys, ?_⟩
  intro a b c hab hbc hac
  exact compareRecords_trans hab hbc hac

/-- A floating-point number before two equal integers, which a second key orders. -/
theorem compareRecords_preorder_of_tie :
    let keys : List SortKey := [⟨⟨["weight"]⟩, .descending⟩, ⟨⟨["name"]⟩, .ascending⟩]
    let half : Binary64 := .finite ⟨false, 0x1C000000000000, 1023, by decide, by decide, by decide⟩
    let a : Record := .node [("weight", .number (.float half))] [] none
    let b : Record := .node [("weight", .number (.signed 3)), ("name", .text "b")] [] none
    let c : Record := .node [("weight", .number (.signed 3)), ("name", .text "c")] [] none
    CommensurableBy keys a b ∧ CommensurableBy keys b c ∧ CommensurableBy keys a c ∧
      compareRecords keys a b ≠ .gt ∧ compareRecords keys b c ≠ .gt ∧
      compareRecords keys a c ≠ .gt ∧ compareRecords keys c a ≠ .lt := by
  intro keys half a b c
  have hmixed : Number.Commensurable (.float half) (.signed 3) :=
    Number.commensurable_float_signed (fun h => nomatch h) (by decide)
  have hsame : Number.Commensurable (.signed 3) (.signed 3) := ⟨rfl, rfl, fun h => nomatch h⟩
  have hab : CommensurableBy keys a b := ⟨hmixed, fun _ => ⟨trivial, fun _ => trivial⟩⟩
  have hbc : CommensurableBy keys b c := ⟨hsame, fun _ => ⟨trivial, fun _ => trivial⟩⟩
  have hac : CommensurableBy keys a c := ⟨hmixed, fun _ => ⟨trivial, fun _ => trivial⟩⟩
  have hle : compareRecords keys a b ≠ .gt := by decide +kernel
  have hle' : compareRecords keys b c ≠ .gt := by decide
  obtain ⟨hswap, htrans⟩ := compareRecords_preorder keys
  have hends := htrans a b c hab hbc hac hle hle'
  refine ⟨hab, hbc, hac, hle, hle', hends, ?_⟩
  rw [hswap a c]
  intro hlt
  exact hends (Ordering.swap_inj.mp hlt)

/-- Where values cannot be compared, or are compared as rounded, a chain that does not fall has ends
that do: through a quiet error, through a value of another kind, and through a floating-point number
to which two integers are rounded. -/
theorem compareRecords_not_transitive :
    let keys : List SortKey := [⟨⟨["weight"]⟩, .ascending⟩]
    let holding (v : Value) : Record := .node [("weight", v)] [] none
    let one := holding (.number (.float (.ofInt 1)))
    let zero := holding (.number (.float (.ofInt 0)))
    let error := holding (.number (.float .nan))
    let word := holding (.text "one")
    let rounded := holding (.number (.float (.ofInt 9007199254740992)))
    let large := holding (.number (.signed 9007199254740993))
    let small := holding (.number (.signed 9007199254740992))
    (compareRecords keys one error ≠ .gt ∧ compareRecords keys error zero ≠ .gt ∧
      compareRecords keys one zero = .gt) ∧
    (compareRecords keys one word ≠ .gt ∧ compareRecords keys word zero ≠ .gt ∧
      compareRecords keys one zero = .gt) ∧
    (compareRecords keys large rounded ≠ .gt ∧ compareRecords keys rounded small ≠ .gt ∧
      compareRecords keys large small = .gt) := by
  decide +kernel

end SortKey

end RecordQuery
