import RecordQuery.Json.Basic

/-!
# Equality of values

Equality as the format sees it is symmetric, and equal values are equal to the same values. It is
coarser than identity, since two zeros of different sign are equal, so that both are proved by
recursion on the values.
-/

namespace RecordQuery

theorem JsonNumber.same_comm (m n : JsonNumber) : m.same n = n.same m := by
  cases m <;> cases n <;> simp [JsonNumber.same, BEq.comm]

theorem JsonNumber.same_congr {m n : JsonNumber} (h : m.same n = true) (k : JsonNumber) :
    m.same k = n.same k := by
  cases m with
  | integer m _ _ =>
    cases n with
    | integer n _ _ =>
      obtain rfl : m = n := eq_of_beq h
      rfl
    | float y => exact absurd h Bool.false_ne_true
  | float x =>
    cases n with
    | integer n _ _ => exact absurd h Bool.false_ne_true
    | float y =>
      have hunits : x.units = y.units := eq_of_beq h
      cases k with
      | integer k _ _ => rfl
      | float z => simp only [same, hunits]

theorem JsonNumber.same_self (n : JsonNumber) : n.same n = true := by
  cases n <;> exact beq_self_eq_true _

namespace Json

mutual

theorem same_self : (a : Json) → a.same a = true
  | null => rfl
  | bool b => beq_self_eq_true b
  | number n => n.same_self
  | string s => beq_self_eq_true s
  | array xs => sameList_self xs
  | object xs => sameEntries_self xs

theorem sameList_self : (xs : List Json) → sameList xs xs = true
  | [] => rfl
  | x :: xs => by rw [sameList, same_self x, sameList_self xs, Bool.true_and]

theorem sameEntries_self : (xs : List (String × Json)) → sameEntries xs xs = true
  | [] => rfl
  | (k, x) :: xs => by
    rw [sameEntries, same_self x, sameEntries_self xs, beq_self_eq_true, Bool.true_and,
      Bool.true_and]

end

mutual

theorem same_comm (a b : Json) : a.same b = b.same a := by
  cases a with
  | null => cases b <;> rfl
  | bool _ =>
    cases b with
    | bool _ => exact BEq.comm
    | _ => rfl
  | number m =>
    cases b with
    | number n => exact m.same_comm n
    | _ => rfl
  | string _ =>
    cases b with
    | string _ => exact BEq.comm
    | _ => rfl
  | array xs =>
    cases b with
    | array ys => exact sameList_comm xs ys
    | _ => rfl
  | object xs =>
    cases b with
    | object ys => exact sameEntries_comm xs ys
    | _ => rfl

theorem sameList_comm (xs ys : List Json) : sameList xs ys = sameList ys xs := by
  cases xs with
  | nil => cases ys <;> rfl
  | cons x xs =>
    cases ys with
    | nil => rfl
    | cons y ys => simp only [sameList, same_comm x y, sameList_comm xs ys]

theorem sameEntries_comm (xs ys : List (String × Json)) :
    sameEntries xs ys = sameEntries ys xs := by
  cases xs with
  | nil => cases ys <;> rfl
  | cons x xs =>
    cases ys with
    | nil => rfl
    | cons y ys =>
      obtain ⟨k, v⟩ := x
      obtain ⟨l, w⟩ := y
      simp only [sameEntries, same_comm v w, sameEntries_comm xs ys, BEq.comm (a := k)]

end

mutual

theorem same_congr {a b : Json} (h : a.same b = true) (c : Json) : a.same c = b.same c := by
  cases a with
  | null =>
    cases b with
    | null => rfl
    | _ => exact absurd h Bool.false_ne_true
  | bool p =>
    cases b with
    | bool q =>
      obtain rfl : p = q := eq_of_beq h
      rfl
    | _ => exact absurd h Bool.false_ne_true
  | number m =>
    cases b with
    | number n =>
      cases c with
      | number k => exact JsonNumber.same_congr h k
      | _ => rfl
    | _ => exact absurd h Bool.false_ne_true
  | string s =>
    cases b with
    | string t =>
      obtain rfl : s = t := eq_of_beq h
      rfl
    | _ => exact absurd h Bool.false_ne_true
  | array xs =>
    cases b with
    | array ys =>
      cases c with
      | array zs => exact sameList_congr h zs
      | _ => rfl
    | _ => exact absurd h Bool.false_ne_true
  | object xs =>
    cases b with
    | object ys =>
      cases c with
      | object zs => exact sameEntries_congr h zs
      | _ => rfl
    | _ => exact absurd h Bool.false_ne_true

theorem sameList_congr {xs ys : List Json} (h : sameList xs ys = true) (zs : List Json) :
    sameList xs zs = sameList ys zs := by
  cases xs with
  | nil =>
    cases ys with
    | nil => rfl
    | cons y ys => exact absurd h Bool.false_ne_true
  | cons x xs =>
    cases ys with
    | nil => exact absurd h Bool.false_ne_true
    | cons y ys =>
      obtain ⟨hhead, htail⟩ := (Bool.and_eq_true _ _).mp h
      cases zs with
      | nil => rfl
      | cons z zs => simp only [sameList, same_congr hhead z, sameList_congr htail zs]

theorem sameEntries_congr {xs ys : List (String × Json)} (h : sameEntries xs ys = true)
    (zs : List (String × Json)) : sameEntries xs zs = sameEntries ys zs := by
  cases xs with
  | nil =>
    cases ys with
    | nil => rfl
    | cons y ys => exact absurd h Bool.false_ne_true
  | cons x xs =>
    obtain ⟨k, v⟩ := x
    cases ys with
    | nil => exact absurd h Bool.false_ne_true
    | cons y ys =>
      obtain ⟨l, w⟩ := y
      obtain ⟨hhead, htail⟩ := (Bool.and_eq_true _ _).mp h
      obtain ⟨hkey, hvalue⟩ := (Bool.and_eq_true _ _).mp hhead
      obtain rfl : k = l := eq_of_beq hkey
      cases zs with
      | nil => rfl
      | cons z zs =>
        obtain ⟨m, u⟩ := z
        simp only [sameEntries, same_congr hvalue u, sameEntries_congr htail zs]

end

theorem isNull_eq_of_same {a b : Json} (h : a.same b = true) : a.isNull = b.isNull := by
  cases a <;> cases b <;> first | rfl | exact absurd h Bool.false_ne_true

end Json

end RecordQuery
