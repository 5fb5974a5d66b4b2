import RecordQuery.Condition
import RecordQuery.Proofs.Text.Strip

/-!
# A part between stars

A text value without stars inside is a part between two runs of stars. Whether there are stars on
either side decides where the lowercase form of the part has to stand in that of a text.
-/

namespace RecordQuery.Condition

/-- The condition for a part, with stars before it and behind it or not. -/
def between (before behind : Bool) (part : String) : Condition :=
  match before, behind with
  | true, true => contains part
  | true, false => endsWith part
  | false, true => startsWith part
  | false, false => exact (.text part)

variable {core part text : List Char} {type : FieldType}

theorem classify_of_isTextual [RegexLibrary] (htype : type.isTextual = true) (raw : String) :
    classify type raw = ofText raw := by
  cases type with
  | text | datetime => rfl
  | integer | float | decimal | boolean | relation _ => exact absurd htype Bool.false_ne_true

/-! ## Reading -/

/-- What the stars of a text value decide: whether there are any, whether one stands inside, and
whether there are some at either end. -/
theorem ofText_eq [RegexLibrary] (raw : String) :
    ofText raw =
      if '*' ∉ raw.toList then .ok (exact (.text raw))
      else if '*' ∈ Text.strip (· = '*') raw.toList then (Glob.compile raw).map wildcard
      else
        .ok (between (raw.toList.head? == some '*') (raw.toList.getLast? == some '*')
          (String.ofList (Text.strip (· = '*') raw.toList))) := by
  cases hfirst : raw.toList.head? == some '*' <;> cases hlast : raw.toList.getLast? == some '*' <;>
    simp only [ofText, hfirst, hlast] <;> rfl

theorem strip_stars (m n : Nat) (hcore : '*' ∉ core) :
    Text.strip (· = '*') (List.replicate m '*' ++ (core ++ List.replicate n '*')) = core := by
  have hstars (k : Nat) : ∀ c ∈ List.replicate k '*', decide (c = '*') = true := by
    intro c hc
    exact decide_eq_true (List.eq_of_mem_replicate hc)
  have hfree : ∀ c ∈ core, decide (c = '*') = false := by
    rintro c hc
    exact decide_eq_false fun h => hcore (h ▸ hc)
  exact Text.strip_between (hstars m) (hstars n)
    (fun c hc => hfree c (List.mem_of_mem_head? hc))
    fun c hc => hfree c (List.mem_of_mem_getLast? hc)

theorem head?_stars (m n : Nat) (hcore : '*' ∉ core) (hne : core ≠ []) :
    ((List.replicate m '*' ++ (core ++ List.replicate n '*')).head? == some '*') =
      decide (0 < m) := by
  obtain ⟨first, rest, rfl⟩ := List.exists_cons_of_ne_nil hne
  have hfirst : first ≠ '*' := by
    rintro rfl
    exact hcore List.mem_cons_self
  cases m with
  | zero => simpa using hfirst
  | succ m => simp [List.replicate_succ]

theorem getLast?_stars (m n : Nat) (hcore : '*' ∉ core) (hne : core ≠ []) :
    ((List.replicate m '*' ++ (core ++ List.replicate n '*')).getLast? == some '*') =
      decide (0 < n) := by
  have hreverse : '*' ∉ core.reverse := by simpa using hcore
  have h := head?_stars n m hreverse (by simpa using hne)
  rw [← h, ← List.head?_reverse]
  simp

theorem ofText_between [RegexLibrary] (m n : Nat) (hcore : '*' ∉ core) (hne : core ≠ []) :
    ofText (String.ofList (List.replicate m '*' ++ (core ++ List.replicate n '*'))) =
      .ok (between (0 < m) (0 < n) (String.ofList core)) := by
  rw [ofText_eq, String.toList_ofList, strip_stars m n hcore, head?_stars m n hcore hne,
    getLast?_stars m n hcore hne, if_neg hcore]
  split
  · rename_i hfree
    obtain ⟨rfl, rfl⟩ : m = 0 ∧ n = 0 := by
      simpa [hcore, List.mem_replicate] using hfree
    simp [between]
  · rfl

/-- Nothing but stars asks for a part without characters. -/
theorem ofText_stars [RegexLibrary] (n : Nat) :
    ofText (String.ofList (List.replicate (n + 1) '*')) = .ok (between true true "") := by
  have hstrip : Text.strip (· = '*') (List.replicate (n + 1) '*') = [] := by
    simpa using strip_stars 0 (n + 1) (List.not_mem_nil (a := '*'))
  have hlast : (List.replicate (n + 1) '*').getLast? = some '*' := by
    rw [List.getLast?_replicate]
    rfl
  rw [ofText_eq, String.toList_ofList, hstrip, hlast]
  simp [List.replicate_succ]

/-! ## Matching -/

theorem hasRun_iff : hasRun part text = true ↔ part <:+: text := by
  induction text with
  | nil => simp [hasRun]
  | cons c text ih =>
    rw [hasRun, Bool.or_eq_true, ih, List.isPrefixOf_iff_prefix, List.infix_cons_iff]

/-- The condition holds of the texts in whose lowercase form that of the part stands, at the ends
on the sides without stars. -/
theorem holds_between_iff (before behind : Bool) (part s : String) :
    (between before behind part).holds (.text s) = true ↔
      ∃ front back, Text.lowerChars s.toList = front ++ (Text.lowerChars part.toList ++ back) ∧
        (before = false → front = []) ∧ (behind = false → back = []) := by
  cases before with
  | true =>
    cases behind with
    | true =>
      simp only [between, holds, hasRun_iff, List.IsInfix, List.append_assoc]
      simp [eq_comm]
    | false =>
      simp only [between, holds, List.isSuffixOf_iff_suffix, List.IsSuffix]
      simp [eq_comm]
  | false =>
    cases behind with
    | true =>
      simp only [between, holds, List.isPrefixOf_iff_prefix, List.IsPrefix]
      simp [eq_comm]
    | false =>
      simp only [between, holds, beq_iff_eq, Text.lower, String.ofList_inj]
      simp

end RecordQuery.Condition
