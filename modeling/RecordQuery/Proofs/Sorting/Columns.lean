import RecordQuery.Proofs.Sorting
import RecordQuery.Proofs.Sorting.Records

/-!
# Sorting by columns of one type

Where the values of the records under each key are of one type or missing, sorting puts the records
in lexicographic order, each key in its own direction and missing values last, and it keeps the
order of the records that agree under all keys.
-/

namespace RecordQuery

/-- The types of columns in which all values can be compared exactly. -/
inductive ColumnType where
  | text
  | bool
  | signed
  | unsigned
  | decimal
deriving DecidableEq

/-- The values a column may hold: missing ones, and those of its type. -/
inductive ColumnType.Admits : ColumnType → Value → Prop where
  | missing (column : ColumnType) : Admits column .missing
  | text (s : String) : Admits .text (.text s)
  | bool (b : Bool) : Admits .bool (.bool b)
  | signed (n : Int64) : Admits .signed (.number (.signed n))
  | unsigned (n : UInt64) : Admits .unsigned (.number (.unsigned n))
  | decimal (d : Decimal) : Admits .decimal (.number (.decimal d))

namespace Value

/-- The values do not differ; numbers count by what they stand for. -/
def Agrees : Value → Value → Prop
  | text s, text t => s = t
  | bool a, bool b => a = b
  | number m, number n => m.toRat = n.toRat
  | missing, missing => True
  | _, _ => False

/-- Neither value is missing, and the first is smaller. -/
def Below : Value → Value → Prop
  | text s, text t => s < t
  | bool a, bool b => a < b
  | number m, number n => m.toRat < n.toRat
  | _, _ => False

variable {column : ColumnType} {v w : Value}

theorem commensurable_of_admits (hv : column.Admits v) (hw : column.Admits w) :
    v.Commensurable w := by
  cases hv with
  | missing => trivial
  | text s => cases hw <;> trivial
  | bool a => cases hw <;> trivial
  | signed m =>
    cases hw with
    | missing => trivial
    | signed n => exact ⟨rfl, rfl, fun h => nomatch h⟩
  | unsigned m =>
    cases hw with
    | missing => trivial
    | unsigned n => exact ⟨rfl, rfl, fun h => nomatch h⟩
  | decimal d =>
    cases hw with
    | missing => trivial
    | decimal e => exact ⟨rfl, rfl, fun h => nomatch h⟩

theorem compare_of_numbers {m n : Number} {order : Ordering} (hcompare : m.compare n = some order)
    (h : order.Compares m.toRat n.toRat) :
    ∃ order, compare (number m) (number n) = some order ∧
      (order = .eq ↔ (number m).Agrees (number n)) ∧ (order = .lt ↔ (number m).Below (number n)) ∧
      (order = .gt ↔ (number n).Below (number m)) :=
  ⟨order, hcompare, h.eq_eq, h.eq_lt, h.eq_gt⟩

theorem compare_of_admits (hv : column.Admits v) (hw : column.Admits w) (hv' : v ≠ missing)
    (hw' : w ≠ missing) :
    ∃ order, compare v w = some order ∧ (order = .eq ↔ v.Agrees w) ∧
      (order = .lt ↔ v.Below w) ∧ (order = .gt ↔ w.Below v) := by
  cases hv with
  | missing => exact absurd rfl hv'
  | text s =>
    cases hw with
    | missing => exact absurd rfl hw'
    | text t =>
      have h := (compare_iff s t).mp rfl
      exact ⟨_, rfl, h.eq_eq, h.eq_lt, h.eq_gt⟩
  | bool a =>
    cases hw with
    | missing => exact absurd rfl hw'
    | bool b =>
      have h := (compare_iff a b).mp rfl
      exact ⟨_, rfl, h.eq_eq, h.eq_lt, h.eq_gt⟩
  | signed m =>
    cases hw with
    | missing => exact absurd rfl hw'
    | signed n =>
      obtain ⟨order, hcompare, h⟩ :=
        Number.compare_compares (v := .signed m) (n := .signed n) rfl rfl rfl
      exact compare_of_numbers hcompare h
  | unsigned m =>
    cases hw with
    | missing => exact absurd rfl hw'
    | unsigned n =>
      obtain ⟨order, hcompare, h⟩ :=
        Number.compare_compares (v := .unsigned m) (n := .unsigned n) rfl rfl rfl
      exact compare_of_numbers hcompare h
  | decimal d =>
    cases hw with
    | missing => exact absurd rfl hw'
    | decimal e => exact compare_of_numbers rfl (Decimal.compare_compares d e)

theorem agrees_refl (v : Value) : v.Agrees v := by
  cases v with
  | text | number | bool => exact rfl
  | missing => trivial

theorem Agrees.symm (h : v.Agrees w) : w.Agrees v := by
  cases v <;> cases w <;> first | exact Eq.symm h | exact h

theorem Agrees.trans {u : Value} (huv : u.Agrees v) (hvw : v.Agrees w) : u.Agrees w := by
  cases u <;> cases v <;> cases w <;>
    first | exact Eq.trans huv hvw | exact huv | exact huv.elim | exact hvw.elim

theorem agrees_missing_iff (v : Value) : v.Agrees missing ↔ v = missing := by
  cases v <;> simp [Agrees]

theorem missing_agrees_iff (w : Value) : missing.Agrees w ↔ w = missing := by
  cases w <;> simp [Agrees]

theorem not_below_missing (v : Value) : ¬v.Below missing := by
  cases v <;> exact id

theorem not_missing_below (w : Value) : ¬missing.Below w := by
  cases w <;> exact id

end Value

namespace SortKey

variable {key : SortKey} {keys front back : List SortKey} {column : ColumnType} {v w : Value}
  {a b : Record} {records : List Record}

/-- The value comes before the other in the direction of the key. -/
def Puts (key : SortKey) (v w : Value) : Prop :=
  (v ≠ .missing ∧ w = .missing) ∨
    match key.direction with
    | .ascending => v.Below w
    | .descending => w.Below v

/-- The records do not differ under the key. -/
def Ties (key : SortKey) (a b : Record) : Prop :=
  (key.path.valueOf a).Agrees (key.path.valueOf b)

/-- The first record comes before the second under the key. -/
def Leads (key : SortKey) (a b : Record) : Prop :=
  key.Puts (key.path.valueOf a) (key.path.valueOf b)

/-- Under each key, all values of the records fit into one column. -/
def Uniform (keys : List SortKey) (records : List Record) : Prop :=
  ∀ key ∈ keys, ∃ column : ColumnType, ∀ record ∈ records, column.Admits (key.path.valueOf record)

/-! ## One key -/

theorem not_puts_missing (key : SortKey) (w : Value) : ¬key.Puts .missing w := by
  rintro (⟨hpresent, _⟩ | hbelow)
  · exact hpresent rfl
  · cases hdirection : key.direction with
    | ascending =>
      rw [hdirection] at hbelow
      exact Value.not_missing_below w hbelow
    | descending =>
      rw [hdirection] at hbelow
      exact Value.not_below_missing w hbelow

theorem puts_iff_of_present (key : SortKey) (hw : w ≠ .missing) :
    key.Puts v w ↔
      match key.direction with
      | .ascending => v.Below w
      | .descending => w.Below v :=
  ⟨fun h => h.resolve_left fun hmissing => hw hmissing.2, Or.inr⟩

theorem compare_of_admits (key : SortKey) (hv : column.Admits v) (hw : column.Admits w) :
    ∃ order, key.compare v w = some order ∧ (order = .eq ↔ v.Agrees w) ∧
      (order = .lt ↔ key.Puts v w) := by
  by_cases hv' : v = .missing
  · subst hv'
    by_cases hw' : w = .missing
    · subst hw'
      refine ⟨.eq, rfl, ?_, ?_⟩
      · exact iff_of_true rfl trivial
      · exact iff_of_false (fun h => nomatch h) (not_puts_missing key .missing)
    · refine ⟨.gt, ?_, ?_, ?_⟩
      · cases w <;> first | rfl | exact absurd rfl hw'
      · rw [Value.missing_agrees_iff]
        exact iff_of_false (fun h => nomatch h) hw'
      · exact iff_of_false (fun h => nomatch h) (not_puts_missing key w)
  · by_cases hw' : w = .missing
    · subst hw'
      refine ⟨.lt, ?_, ?_, ?_⟩
      · cases v <;> first | rfl | exact absurd rfl hv'
      · rw [Value.agrees_missing_iff]
        exact iff_of_false (fun h => nomatch h) hv'
      · exact iff_of_true rfl (Or.inl ⟨hv', rfl⟩)
    · obtain ⟨order, hcompare, heq, hlt, hgt⟩ := Value.compare_of_admits hv hw hv' hw'
      refine ⟨key.direction.apply order, ?_, ?_, ?_⟩
      · rw [compare_of_present key hv' hw', hcompare]
        rfl
      · rw [← heq]
        cases key.direction <;> cases order <;> decide
      · rw [puts_iff_of_present key hw']
        cases key.direction with
        | ascending => exact hlt
        | descending =>
          have hswap : Direction.descending.apply order = .lt ↔ order = .gt := by
            cases order <;> decide
          exact hswap.trans hgt

/-! ## All keys -/

theorem commensurableBy_of_uniform (h : Uniform keys records) (ha : a ∈ records)
    (hb : b ∈ records) : CommensurableBy keys a b := by
  induction keys with
  | nil => trivial
  | cons key keys ih =>
    obtain ⟨hkey, hkeys⟩ := List.forall_mem_cons.mp h
    obtain ⟨column, hcolumn⟩ := hkey
    exact ⟨Value.commensurable_of_admits (hcolumn a ha) (hcolumn b hb), fun _ => ih hkeys⟩

/-- Of two records that are in order, the first leads under the first key at which they differ. -/
theorem leads_of_first (h : Uniform (front ++ key :: back) records) (ha : a ∈ records)
    (hb : b ∈ records) (hle : compareRecords (front ++ key :: back) a b ≠ .gt)
    (hfront : ∀ k ∈ front, k.Ties a b) (hdiffer : ¬key.Ties a b) : key.Leads a b := by
  induction front with
  | nil =>
    obtain ⟨column, hcolumn⟩ := h key List.mem_cons_self
    obtain ⟨order, hcompare, heq, hlt⟩ := compare_of_admits key (hcolumn a ha) (hcolumn b hb)
    rw [List.nil_append, compareRecords_cons hcompare] at hle
    cases order with
    | lt => exact hlt.mp rfl
    | eq => exact absurd (heq.mp rfl) hdiffer
    | gt => exact absurd rfl hle
  | cons k front ih =>
    obtain ⟨hk, hrest⟩ := List.forall_mem_cons.mp h
    obtain ⟨htied, hfront⟩ := List.forall_mem_cons.mp hfront
    obtain ⟨column, hcolumn⟩ := hk
    obtain ⟨order, hcompare, heq, _⟩ := compare_of_admits k (hcolumn a ha) (hcolumn b hb)
    obtain rfl : order = .eq := heq.mpr htied
    rw [List.cons_append, compareRecords_cons hcompare] at hle
    exact ih hrest hle hfront

theorem compareRecords_of_ties (h : Uniform keys records) (ha : a ∈ records) (hb : b ∈ records)
    (hties : ∀ key ∈ keys, key.Ties a b) : compareRecords keys a b = .eq := by
  induction keys with
  | nil => rfl
  | cons key keys ih =>
    obtain ⟨hkey, hrest⟩ := List.forall_mem_cons.mp h
    obtain ⟨htied, hties⟩ := List.forall_mem_cons.mp hties
    obtain ⟨column, hcolumn⟩ := hkey
    obtain ⟨order, hcompare, heq, _⟩ := compare_of_admits key (hcolumn a ha) (hcolumn b hb)
    obtain rfl : order = .eq := heq.mpr htied
    rw [compareRecords_cons hcompare]
    exact ih hrest hties

end SortKey

open SortKey

variable {α : Type} {keys : List SortKey} {view : α → Record} {xs ys : List α}

/-- On records of uniform columns the comparison orders strictly, up to ties. -/
theorem ordersOn_of_uniform (h : Uniform keys (xs.map view)) :
    OrdersOn (· ∈ xs) fun x y => compareRecords keys (view x) (view y) == .lt := by
  have hcommensurable {x y : α} (hx : x ∈ xs) (hy : y ∈ xs) :
      CommensurableBy keys (view x) (view y) :=
    commensurableBy_of_uniform h (List.mem_map_of_mem hx) (List.mem_map_of_mem hy)
  have hfalse (x y : α) : ((compareRecords keys (view x) (view y) == .lt) = false) ↔
      compareRecords keys (view y) (view x) ≠ .gt := by
    rw [compareRecords_swap keys (view x) (view y)]
    cases compareRecords keys (view x) (view y) <;> decide
  constructor
  case asymm =>
    intro x y hx hy hprecedes
    rw [hfalse, eq_of_beq hprecedes]
    exact fun hgt => nomatch hgt
  case trans =>
    intro x y z hx hy hz hxy hyz
    rw [hfalse] at hxy hyz ⊢
    exact compareRecords_trans (hcommensurable hz hy) (hcommensurable hy hx) (hcommensurable hz hx)
      hyz hxy

open Classical in
/-- Records that agree under all keys keep their order. -/
theorem sublist_sortByKeys (h : Uniform keys (xs.map view)) (hys : ys.Sublist xs)
    (hties : ys.Pairwise fun x y => ∀ key ∈ keys, key.Ties (view x) (view y)) :
    ys.Sublist (sortByKeys keys view xs) := by
  cases ys with
  | nil => exact List.nil_sublist _
  | cons y ys =>
    obtain ⟨hfirst, _⟩ := List.pairwise_cons.mp hties
    let p : α → Bool := fun z => decide (z ∈ xs ∧ ∀ key ∈ keys, key.Ties (view y) (view z))
    have hall : ∀ z ∈ y :: ys, p z = true := by
      intro z hz
      refine decide_eq_true ⟨hys.subset hz, ?_⟩
      rcases List.mem_cons.mp hz with rfl | hz
      · exact fun key _ => Value.agrees_refl _
      · exact hfirst z hz
    have htied : ∀ a b, p a = true → p b = true →
        (compareRecords keys (view a) (view b) == .lt) = false := by
      intro a b ha hb
      obtain ⟨ha, htiesa⟩ := of_decide_eq_true ha
      obtain ⟨hb, htiesb⟩ := of_decide_eq_true hb
      rw [compareRecords_of_ties h (List.mem_map_of_mem ha) (List.mem_map_of_mem hb)]
      · rfl
      · exact fun key hkey => (htiesa key hkey).symm.trans (htiesb key hkey)
    rw [sortByKeys_eq_stableSort, ← List.filter_eq_self.mpr hall]
    apply (hys.filter p).trans
    rw [← filter_stableSort htied xs]
    exact List.filter_sublist

/-- Sorting by columns of one type is a stable lexicographic sort: the result has the same records;
of two of them, the one that comes first leads under the first key at which they differ; records
that agree under all keys keep their order; and sorting again changes nothing. -/
theorem sortByKeys_lexicographic (keys : List SortKey) (view : α → Record) (xs : List α)
    (h : Uniform keys (xs.map view)) :
    (sortByKeys keys view xs).Perm xs ∧
      ((sortByKeys keys view xs).Pairwise fun x y => ∀ front key back, keys = front ++ key :: back →
        (∀ k ∈ front, k.Ties (view x) (view y)) → ¬key.Ties (view x) (view y) →
          key.Leads (view x) (view y)) ∧
      (∀ ys : List α, ys.Sublist xs →
        (ys.Pairwise fun x y => ∀ key ∈ keys, key.Ties (view x) (view y)) →
          ys.Sublist (sortByKeys keys view xs)) ∧
      sortByKeys keys view (sortByKeys keys view xs) = sortByKeys keys view xs := by
  have hperm := sortByKeys_perm keys view xs
  have hsorted : (sortByKeys keys view xs).Pairwise fun x y =>
      (compareRecords keys (view y) (view x) == .lt) = false := by
    rw [sortByKeys_eq_stableSort]
    exact pairwise_stableSort (ordersOn_of_uniform h)
  refine ⟨hperm, ?_, fun ys hys hties => sublist_sortByKeys h hys hties, ?_⟩
  · refine List.Pairwise.imp_of_mem ?_ hsorted
    rintro x y hx hy hprecedes front key back rfl hfront hdiffer
    have hle : compareRecords (front ++ key :: back) (view x) (view y) ≠ .gt := by
      intro hgt
      rw [compareRecords_swap _ (view x) (view y), hgt] at hprecedes
      exact absurd hprecedes (by decide)
    exact leads_of_first h (List.mem_map_of_mem (hperm.mem_iff.mp hx))
      (List.mem_map_of_mem (hperm.mem_iff.mp hy)) hle hfront hdiffer
  · rw [sortByKeys_eq_stableSort keys view (sortByKeys keys view xs)]
    exact stableSort_of_pairwise hsorted

/-- Prices from the highest down, one of them missing and two of them equal with different scales,
then the names of related records. -/
theorem sortByKeys_lexicographic_of_prices :
    let keys : List SortKey :=
      [⟨⟨["price"]⟩, .descending⟩, ⟨⟨["category", "name"]⟩, .ascending⟩]
    let tools : Record := .node [("name", .text "Tools")] [] none
    let short : Decimal := ⟨false, 15, 1, by decide, by decide⟩
    let long : Decimal := ⟨false, 150, 2, by decide, by decide⟩
    let view : Nat → Record
      | 0 => .node [] [("category", [tools])] none
      | 1 => .node [("price", .number (.decimal long))] [("category", [tools])] none
      | _ => .node [("price", .number (.decimal short))] [("category", [tools, tools])] none
    Uniform keys ([0, 1, 2].map view) ∧ sortByKeys keys view [0, 1, 2] = [1, 2, 0] ∧
      (∀ key ∈ keys, key.Ties (view 1) (view 2)) ∧
      [1, 2].Sublist (sortByKeys keys view [0, 1, 2]) ∧
      sortByKeys keys view (sortByKeys keys view [0, 1, 2]) = sortByKeys keys view [0, 1, 2] := by
  intro keys tools short long view
  have hprices : [0, 1, 2].map (fun n => FieldPath.valueOf ⟨["price"]⟩ (view n)) =
      [.missing, .number (.decimal long), .number (.decimal short)] := by decide
  have hnames : [0, 1, 2].map (fun n => FieldPath.valueOf ⟨["category", "name"]⟩ (view n)) =
      [.text "Tools", .text "Tools", .text "Tools"] := by decide
  simp only [List.map_cons, List.map_nil, List.cons.injEq, and_true] at hprices hnames
  obtain ⟨hnone, hlong, hshort⟩ := hprices
  obtain ⟨hfirst, hsecond, hthird⟩ := hnames
  have huniform : Uniform keys ([0, 1, 2].map view) := by
    intro key hkey
    simp only [List.map_cons, List.map_nil, List.forall_mem_cons, List.not_mem_nil,
      false_implies, implies_true, and_true]
    rcases List.mem_cons.mp hkey with rfl | hkey
    · refine ⟨.decimal, ?_, ?_, ?_⟩
      · rw [hnone]
        exact .missing _
      · rw [hlong]
        exact .decimal _
      · rw [hshort]
        exact .decimal _
    · obtain rfl := List.mem_singleton.mp hkey
      refine ⟨.text, ?_, ?_, ?_⟩
      · rw [hfirst]
        exact .text _
      · rw [hsecond]
        exact .text _
      · rw [hthird]
        exact .text _
  have hequal : long.toRat = short.toRat := Decimal.toRat_eq_of_compare (by decide)
  have hties : ∀ key ∈ keys, key.Ties (view 1) (view 2) := by
    intro key hkey
    rcases List.mem_cons.mp hkey with rfl | hkey
    · rw [Ties, hlong, hshort]
      exact hequal
    · obtain rfl := List.mem_singleton.mp hkey
      rw [Ties, hsecond, hthird]
      exact rfl
  obtain ⟨_, _, hstable, hagain⟩ := sortByKeys_lexicographic keys view [0, 1, 2] huniform
  refine ⟨huniform, by decide, hties, ?_, hagain⟩
  apply hstable [1, 2] (List.Sublist.cons 0 (List.Sublist.refl _))
  exact List.pairwise_pair.mpr hties

end RecordQuery
