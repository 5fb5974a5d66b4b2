import Mathlib.Algebra.Order.Field.Rat
import RecordQuery.Json.Number
import RecordQuery.Json.Print
import RecordQuery.Proofs.Numeric.Shortest

/-!
# Numbers in a text

The text of a number is one literal of the data format, and behind it the reader stops where the
number ends. An integer is written without point and exponent and a floating-point number with one
of them, so that every number has a text of its own.
-/

namespace RecordQuery.JsonNumber

/-- The text ends here, or what follows cannot be part of a number. -/
def Ends (rest : List Char) : Prop := ∀ c ∈ rest.head?, c = ',' ∨ c = ']' ∨ c = '\x7d'

theorem ends_nil : Ends [] := fun _ hc => nomatch hc

section Scanning

variable {digits rest : List Char}

theorem Ends.isDigit_eq_false (h : Ends rest) : ∀ c ∈ rest.head?, c.isDigit = false := by
  intro c hc
  rcases h c hc with rfl | rfl | rfl <;> rfl

theorem Ends.head?_ne (h : Ends rest) {c : Char} (hcomma : c ≠ ',') (hbracket : c ≠ ']')
    (hbrace : c ≠ '\x7d') : rest.head? ≠ some c := by
  intro hc
  rcases h c hc with rfl | rfl | rfl
  · exact hcomma rfl
  · exact hbracket rfl
  · exact hbrace rfl

theorem takeWhile_digits (hdigits : ∀ c ∈ digits, c.isDigit = true)
    (hrest : ∀ c ∈ rest.head?, c.isDigit = false) :
    (digits ++ rest).takeWhile Char.isDigit = digits := by
  rw [List.takeWhile_append_of_pos hdigits]
  cases rest with
  | nil => exact List.append_nil digits
  | cons c rest =>
    rw [List.takeWhile_cons_of_neg (by simp [hrest c rfl]), List.append_nil]

theorem dropWhile_digits (hdigits : ∀ c ∈ digits, c.isDigit = true)
    (hrest : ∀ c ∈ rest.head?, c.isDigit = false) :
    (digits ++ rest).dropWhile Char.isDigit = rest := by
  rw [List.dropWhile_append_of_pos hdigits]
  cases rest with
  | nil => rfl
  | cons c rest => exact List.dropWhile_cons_of_neg (by simp [hrest c rfl])

end Scanning

/-! ## Literals -/

namespace Literal

/-- The literal is made of digits, with no zero before other digits. -/
structure Proper (literal : Literal) : Prop where
  whole : ∀ c ∈ literal.whole, c.isDigit = true
  fraction : ∀ digits ∈ literal.fraction, (∀ c ∈ digits, c.isDigit = true) ∧ digits ≠ []
  whole_ne_nil : literal.whole ≠ []
  first : literal.whole.head? = some '0' → literal.whole.length ≤ 1

def fractionChars : Option (List Char) → List Char
  | none => []
  | some digits => '.' :: digits

/-- An exponent with its sign, below zero or not. -/
def exponentChars : Option (Bool × Nat) → List Char
  | none => []
  | some (down, size) => 'e' :: (if down then '-' else '+') :: Digits.ofNat size

def unsignedChars (literal : Literal) : List Char :=
  literal.whole ++ (fractionChars literal.fraction ++ exponentChars literal.exponent)

def chars (literal : Literal) : List Char :=
  if literal.negative then '-' :: literal.unsignedChars else literal.unsignedChars

variable {literal : Literal} {rest : List Char}

theorem readExponent?_chars (down : Bool) (size : Nat) (h : Ends rest) :
    readExponent? ((if down then '-' else '+') :: (Digits.ofNat size ++ rest)) =
      some ((down, size), rest) := by
  have hdigits : ∀ c ∈ Digits.ofNat size, c.isDigit = true :=
    fun _ hc => Digits.isDigit_of_mem_ofNat hc
  have hne : (Digits.ofNat size).isEmpty = false :=
    List.isEmpty_eq_false_iff.mpr Nat.toDigits_ne_nil
  cases down <;>
    simp only [readExponent?, takeWhile_digits hdigits h.isDigit_eq_false,
      dropWhile_digits hdigits h.isDigit_eq_false, hne, Digits.value_ofNat, Bool.false_eq_true,
      if_false, if_true]

theorem head?_exponentChars (exponent : Option (Bool × Nat)) (h : Ends rest) :
    ∀ c ∈ (exponentChars exponent ++ rest).head?, c.isDigit = false ∧ c ≠ '.' := by
  intro c hc
  cases exponent with
  | none =>
    rcases h c hc with rfl | rfl | rfl <;> exact ⟨rfl, by decide⟩
  | some exponent =>
    obtain rfl := Option.some.inj hc
    exact ⟨rfl, by decide⟩

theorem head?_fractionChars (literal : Literal) (h : Ends rest) :
    ∀ c ∈ (fractionChars literal.fraction ++ (exponentChars literal.exponent ++ rest)).head?,
      c.isDigit = false := by
  intro c hc
  cases hfraction : literal.fraction with
  | none =>
    rw [hfraction] at hc
    exact (head?_exponentChars literal.exponent h c hc).1
  | some digits =>
    rw [hfraction] at hc
    obtain rfl := Option.some.inj hc
    rfl

theorem head?_chars (hproper : literal.Proper) (rest : List Char) :
    ((literal.chars ++ rest).head? == some '-') = literal.negative ∧
      (if literal.negative then (literal.chars ++ rest).drop 1 else literal.chars ++ rest) =
        literal.whole ++ (fractionChars literal.fraction ++
          (exponentChars literal.exponent ++ rest)) := by
  have hjoin : literal.unsignedChars ++ rest = literal.whole ++
      (fractionChars literal.fraction ++ (exponentChars literal.exponent ++ rest)) := by
    rw [unsignedChars, List.append_assoc, List.append_assoc]
  rw [chars]
  cases literal.negative with
  | true => exact ⟨rfl, hjoin⟩
  | false =>
    simp only [Bool.false_eq_true, if_false, hjoin, and_true]
    obtain ⟨first, more, hwhole⟩ := List.exists_cons_of_ne_nil hproper.whole_ne_nil
    have hdigit := hproper.whole first (hwhole ▸ List.mem_cons_self)
    rw [hwhole, List.cons_append, List.head?_cons, beq_eq_false_iff_ne]
    rintro hminus
    obtain rfl := Option.some.inj hminus
    exact absurd hdigit (by decide)

/-- What the reader does behind the digits before the point. -/
theorem scanFraction (hproper : literal.Proper) (h : Ends rest) :
    let after := fractionChars literal.fraction ++ (exponentChars literal.exponent ++ rest)
    let point := after.head? == some '.'
    point = literal.fraction.isSome ∧
      (if point then (after.drop 1).takeWhile Char.isDigit else []) = literal.fraction.getD [] ∧
      (if point then (after.drop 1).dropWhile Char.isDigit else after) =
        exponentChars literal.exponent ++ rest := by
  have hstop := head?_exponentChars literal.exponent h
  have hdigit : ∀ c ∈ (exponentChars literal.exponent ++ rest).head?, c.isDigit = false :=
    fun c hc => (hstop c hc).1
  cases hfraction : literal.fraction with
  | none =>
    have hpoint : ((exponentChars literal.exponent ++ rest).head? == some '.') = false := by
      rw [beq_eq_false_iff_ne]
      exact fun hc => (hstop '.' hc).2 rfl
    simp only [fractionChars, List.nil_append, hpoint]
    exact ⟨rfl, rfl, rfl⟩
  | some digits =>
    have hdigits := (hproper.fraction digits hfraction).1
    simp [fractionChars, takeWhile_digits hdigits hdigit, dropWhile_digits hdigits hdigit]

/-- A written literal is taken apart into its parts, up to its end. -/
theorem scan?_chars (hproper : literal.Proper) (h : Ends rest) :
    scan? (literal.chars ++ rest) = some (literal, rest) := by
  obtain ⟨hnegative, hbody⟩ := head?_chars hproper rest
  obtain ⟨hpoint, hfraction, hafter⟩ := scanFraction hproper h
  have hempty : literal.whole.isEmpty = false :=
    List.isEmpty_eq_false_iff.mpr hproper.whole_ne_nil
  have hfirst : (literal.whole.head? == some '0' && decide (1 < literal.whole.length)) = false := by
    by_cases hzero : literal.whole.head? = some '0'
    · simp [hproper.first hzero]
    · simp [hzero]
  have hdigits : (literal.fraction.isSome && (literal.fraction.getD []).isEmpty) = false := by
    cases hsome : literal.fraction with
    | none => rfl
    | some digits => simpa using (hproper.fraction digits hsome).2
  have hstop := literal.head?_fractionChars h
  unfold scan?
  simp only [hnegative, hbody, takeWhile_digits hproper.whole hstop,
    dropWhile_digits hproper.whole hstop, hempty, hfirst, Bool.false_or, Bool.false_eq_true,
    if_false, hfraction, hafter]
  simp only [hpoint, hdigits, Bool.false_eq_true, if_false]
  have hsome : (if literal.fraction.isSome then some (literal.fraction.getD []) else none) =
      literal.fraction := by
    cases literal.fraction <;> rfl
  rw [hsome]
  obtain ⟨negative, whole, fraction, exponent⟩ := literal
  cases exponent with
  | none =>
    have hlower := h.head?_ne (c := 'e') (by decide) (by decide) (by decide)
    have hupper := h.head?_ne (c := 'E') (by decide) (by decide) (by decide)
    simp [exponentChars, hlower, hupper]
  | some exponent =>
    obtain ⟨down, size⟩ := exponent
    simp [exponentChars, readExponent?_chars down size h]

/-! ## What a literal stands for -/

def exponentValue : Option (Bool × Nat) → Int
  | none => 0
  | some (down, size) => if down then -(size : Int) else size

def digits (literal : Literal) : List Char := literal.whole ++ literal.fraction.getD []

/-- The size of the number, without the sign. -/
def size (literal : Literal) : ℚ :=
  Digits.value literal.digits *
    (10 : ℚ) ^ (exponentValue literal.exponent - (literal.fraction.getD []).length)

def IsFloat (literal : Literal) : Prop :=
  literal.fraction.isSome = true ∨ literal.exponent.isSome = true

/-- The digits with a point behind the first one, unless it is alone. -/
def mantissa : List Char → List Char
  | first :: [] => [first]
  | first :: more => first :: '.' :: more
  | [] => []

/-- The literal is a floating-point number of this sign, text and size. -/
structure Writes (literal : Literal) (negative : Bool) (body : List Char) (q : ℚ) : Prop where
  proper : literal.Proper
  negative_eq : literal.negative = negative
  unsignedChars_eq : literal.unsignedChars = body
  isFloat : literal.IsFloat
  size_eq : literal.size = q

variable {ds : List Char} {exponent : Int} {first : Char}

theorem exists_writes_zero (negative : Bool) :
    ∃ literal : Literal, literal.Writes negative ['0', '.', '0'] 0 := by
  refine ⟨⟨negative, ['0'], some ['0'], none⟩, ?_, rfl, rfl, Or.inl rfl, ?_⟩
  · exact ⟨by simp, by simp, by simp, fun _ => Nat.le_refl 1⟩
  · have hvalue : Digits.value ['0', '0'] = 0 := by decide
    simp [size, digits, hvalue]

theorem size_point (whole fraction : List Char) (negative : Bool) :
    size ⟨negative, whole, some fraction, none⟩ =
      Digits.value (whole ++ fraction) * (10 : ℚ) ^ (-(fraction.length : Int)) := by
  simp [size, digits, exponentValue]

/-- A whole number is written with all its zeros, and with a zero behind the point. -/
theorem exists_writes_whole (negative : Bool) (hdigits : ∀ c ∈ ds, c.isDigit = true)
    (hne : ds ≠ []) (hfirst : ds.head? ≠ some '0') (n : Nat) :
    ∃ literal : Literal,
      literal.Writes negative (Binary64.positional ds n true)
        (Digits.value ds * (10 : ℚ) ^ (n : Int)) := by
  refine ⟨⟨negative, ds ++ List.replicate n '0', some ['0'], none⟩, ?_, rfl, ?_, Or.inl rfl, ?_⟩
  · refine ⟨?_, by simp, by simp [hne], ?_⟩
    · intro c hc
      rcases List.mem_append.mp hc with hdigit | hzero
      · exact hdigits c hdigit
      · exact Digits.isDigit_of_mem_zeros hzero
    · intro hzero
      rw [List.head?_append_of_ne_nil _ hne] at hzero
      exact absurd hzero hfirst
  · simp [unsignedChars, fractionChars, exponentChars, Binary64.positional]
  · have hzeros : List.replicate n '0' ++ ['0'] = List.replicate (n + 1) '0' :=
      List.replicate_succ'.symm
    rw [size_point, List.append_assoc, hzeros, Digits.value_append_replicate_zero]
    push_cast
    rw [pow_succ, zpow_natCast, zpow_neg]
    simp
    ring

theorem positional_of_neg (ds : List Char) {n : Nat} (hn : n ≠ 0) :
    Binary64.positional ds (-(n : Int)) true =
      Digits.wholePart n ds ++ '.' :: Digits.fractionPart n ds := by
  have hplaces : (-(-(n : Int))).toNat = n := by omega
  rw [Binary64.positional, if_neg (by omega), hplaces]
  rfl

/-- The places of a number below one unit of its last digit stand behind the point. -/
theorem exists_writes_fraction (negative : Bool) (hdigits : ∀ c ∈ ds, c.isDigit = true)
    (hfirst : ds.head? ≠ some '0') {n : Nat} (hn : n ≠ 0) :
    ∃ literal : Literal,
      literal.Writes negative (Binary64.positional ds (-(n : Int)) true)
        (Digits.value ds * (10 : ℚ) ^ (-(n : Int))) := by
  have hjoin := Digits.wholePart_append_fractionPart n ds
  have hall : ∀ c ∈ Digits.wholePart n ds ++ Digits.fractionPart n ds, c.isDigit = true := by
    rw [hjoin]
    exact Digits.isDigit_of_mem_padded hdigits
  have hlength := Digits.length_fractionPart n ds
  refine ⟨⟨negative, Digits.wholePart n ds, some (Digits.fractionPart n ds), none⟩, ?_, rfl, ?_,
    Or.inl rfl, ?_⟩
  · refine ⟨fun c hc => hall c (List.mem_append_left _ hc), ?_, Digits.wholePart_ne_nil n ds,
      Digits.length_wholePart_le_one hfirst⟩
    intro cs hcs
    obtain rfl := Option.some.inj hcs
    refine ⟨fun c hc => hall c (List.mem_append_right _ hc), List.ne_nil_of_length_pos ?_⟩
    omega
  · rw [positional_of_neg ds hn]
    simp [unsignedChars, fractionChars, exponentChars]
  · rw [size_point, hjoin, Digits.value_padded, hlength]

theorem exists_writes_positional (negative : Bool) (hdigits : ∀ c ∈ ds, c.isDigit = true)
    (hhead : ds.head? = some first) (hfirst : first ≠ '0') :
    ∃ literal : Literal,
      literal.Writes negative (Binary64.positional ds exponent true)
        (Digits.value ds * (10 : ℚ) ^ exponent) := by
  have hne : ds ≠ [] := by
    rintro rfl
    exact nomatch hhead
  have hzero : ds.head? ≠ some '0' := by
    rw [hhead]
    exact fun heq => hfirst (Option.some.inj heq)
  by_cases hexponent : 0 ≤ exponent
  · obtain ⟨n, rfl⟩ := Int.eq_ofNat_of_zero_le hexponent
    exact exists_writes_whole negative hdigits hne hzero n
  · obtain ⟨n, rfl⟩ : ∃ n : Nat, exponent = -(n : Int) := ⟨(-exponent).toNat, by omega⟩
    exact exists_writes_fraction negative hdigits hzero (by omega)

theorem exists_writes_scientific (negative : Bool) (hdigits : ∀ c ∈ ds, c.isDigit = true)
    (hne : ds ≠ []) :
    ∃ literal : Literal,
      literal.Writes negative
        (mantissa ds ++
          'e' :: (if exponent + ds.length - 1 < 0 then '-' else '+') ::
            Digits.ofNat (exponent + ds.length - 1).natAbs)
        (Digits.value ds * (10 : ℚ) ^ exponent) := by
  generalize hleading : exponent + ds.length - 1 = leading
  have hexponent : exponentValue (some (decide (leading < 0), leading.natAbs)) = leading := by
    by_cases hdown : leading < 0
    · simp only [exponentValue, hdown, decide_true, if_true]
      omega
    · simp only [exponentValue, hdown, decide_false, Bool.false_eq_true, if_false]
      omega
  obtain ⟨first, more, rfl⟩ := List.exists_cons_of_ne_nil hne
  cases more with
  | nil =>
    refine ⟨⟨negative, [first], none, some (decide (leading < 0), leading.natAbs)⟩, ?_, rfl, ?_,
      Or.inr rfl, ?_⟩
    · exact ⟨hdigits, by simp, by simp, fun _ => Nat.le_refl 1⟩
    · simp [unsignedChars, fractionChars, exponentChars, mantissa]
    · obtain rfl : exponent = leading := by simpa using hleading
      simp [size, digits, hexponent]
  | cons second more =>
    refine ⟨⟨negative, [first], some (second :: more),
      some (decide (leading < 0), leading.natAbs)⟩, ?_, rfl, ?_, Or.inl rfl, ?_⟩
    · refine ⟨fun c hc => hdigits c ?_, ?_, by simp, fun _ => Nat.le_refl 1⟩
      · rw [List.mem_singleton.mp hc]
        exact List.mem_cons_self
      · intro cs hcs
        obtain rfl := Option.some.inj hcs
        exact ⟨fun c hc => hdigits c (List.mem_cons_of_mem _ hc), by simp⟩
    · simp [unsignedChars, fractionChars, exponentChars, mantissa]
    · have hplaces : leading - ((second :: more).length : Int) = exponent := by
        rw [← hleading, List.length_cons (a := first)]
        push_cast
        omega
      simp only [size, digits, hexponent, Option.getD_some, hplaces]
      rfl

/-- The literal is how the number is written. -/
def Spells (literal : Literal) : JsonNumber → Prop
  | .integer n _ _ => ¬literal.IsFloat ∧
      (if literal.negative then -(Digits.value literal.whole : Int)
        else Digits.value literal.whole) = n
  | .float x => literal.IsFloat ∧ literal.negative = x.negative ∧
      literal.size = if x.significand = 0 then 0 else Binary64.Finite.spelled (x.shortest .even)

theorem eq_of_spells {m n : JsonNumber} (hm : literal.Spells m) (hn : literal.Spells n) : m = n := by
  cases m with
  | integer m _ _ =>
    cases n with
    | integer n _ _ =>
      obtain rfl : m = n := hm.2.symm.trans hn.2
      rfl
    | float y => exact absurd hn.1 hm.1
  | float x =>
    cases n with
    | integer n _ _ => exact absurd hm.1 hn.1
    | float y =>
      have hsign : x.negative = y.negative := hm.2.1.symm.trans hn.2.1
      have hsize := hm.2.2.symm.trans hn.2.2
      by_cases hx : x.significand = 0
      · by_cases hy : y.significand = 0
        · rw [Binary64.Finite.eq_of_zero hsign hx hy]
        · rw [if_pos hx, if_neg hy] at hsize
          exact absurd hsize.symm (Binary64.Finite.spelled_shortest_ne_zero hy .even)
      · by_cases hy : y.significand = 0
        · rw [if_neg hx, if_pos hy] at hsize
          exact absurd hsize (Binary64.Finite.spelled_shortest_ne_zero hx .even)
        · rw [if_neg hx, if_neg hy] at hsize
          rw [Binary64.Finite.eq_of_spelled_eq hsign hx hy hsize]

end Literal

theorem Literal.Writes.chars_eq {literal : Literal} {negative : Bool} {body : List Char} {q : ℚ}
    (h : literal.Writes negative body q) :
    literal.chars = if negative then '-' :: body else body := by
  rw [Literal.chars, h.negative_eq, h.unsignedChars_eq]

theorem exists_writes_dataText (x : Binary64.Finite) :
    ∃ (literal : Literal) (body : List Char),
      literal.Writes x.negative body
        (if x.significand = 0 then 0 else Binary64.Finite.spelled (x.shortest .even)) ∧
      x.dataText.toList = if x.negative then '-' :: body else body := by
  by_cases hx : x.significand = 0
  · obtain ⟨literal, hwrites⟩ := Literal.exists_writes_zero x.negative
    rw [if_pos hx]
    refine ⟨literal, _, hwrites, ?_⟩
    rw [Binary64.Finite.dataText, String.toList_ofList, if_pos hx]
  · obtain ⟨first, hhead, hfirst⟩ := Binary64.Finite.head?_shortest hx .even
    have hdigits : ∀ c ∈ (x.shortest .even).1, c.isDigit = true :=
      fun _ hc => Binary64.Finite.isDigit_of_mem_shortest hc
    rw [if_neg hx]
    by_cases hplain : -5 ≤ (x.shortest .even).2 + (x.shortest .even).1.length - 1 ∧
        (x.shortest .even).2 + (x.shortest .even).1.length - 1 < 16
    · obtain ⟨literal, hwrites⟩ := Literal.exists_writes_positional x.negative hdigits hhead hfirst
      refine ⟨literal, _, hwrites, ?_⟩
      rw [Binary64.Finite.dataText, String.toList_ofList, if_neg hx]
      dsimp only
      rw [if_pos hplain]
    · have hne : (x.shortest .even).1 ≠ [] := by
        intro hnil
        rw [hnil] at hhead
        exact nomatch hhead
      obtain ⟨literal, hwrites⟩ := Literal.exists_writes_scientific x.negative hdigits hne
      refine ⟨literal, _, hwrites, ?_⟩
      rw [Binary64.Finite.dataText, String.toList_ofList, if_neg hx]
      dsimp only
      rw [if_neg hplain]
      rfl

theorem exists_literal (n : JsonNumber) :
    ∃ literal : Literal, literal.Proper ∧ literal.Spells n ∧ n.text.toList = literal.chars := by
  cases n with
  | integer n _ _ =>
    refine ⟨⟨n < 0, Digits.ofNat n.natAbs, none, none⟩, ?_, ⟨by simp [Literal.IsFloat], ?_⟩, ?_⟩
    · refine ⟨fun c hc => Digits.isDigit_of_mem_ofNat hc, by simp, Nat.toDigits_ne_nil, ?_⟩
      intro hzero
      by_cases hn : n.natAbs = 0
      · rw [hn]
        exact Nat.le_refl 1
      · exact absurd rfl (Digits.ne_zero_of_mem_head?_ofNat hn '0' hzero)
    · simp only [decide_eq_true_eq, Digits.value_ofNat]
      split <;> omega
    · rw [text, Digits.intText, Literal.chars]
      simp only [decide_eq_true_eq]
      split
      · simp [Literal.unsignedChars, Literal.fractionChars, Literal.exponentChars]
      · simp [Literal.unsignedChars, Literal.fractionChars, Literal.exponentChars, Digits.natText]
  | float x =>
    obtain ⟨literal, body, hwrites, htext⟩ := exists_writes_dataText x
    exact ⟨literal, hwrites.proper, ⟨hwrites.isFloat, hwrites.negative_eq, hwrites.size_eq⟩,
      htext.trans hwrites.chars_eq.symm⟩

/-- The text of a number says where it ends and which number it is. -/
theorem text_delimits {m n : JsonNumber} {rest rest' : List Char} (hm : Ends rest) (hn : Ends rest')
    (h : m.text.toList ++ rest = n.text.toList ++ rest') : m = n ∧ rest = rest' := by
  obtain ⟨literal, hproper, hspells, htext⟩ := m.exists_literal
  obtain ⟨other, hproper', hspells', htext'⟩ := n.exists_literal
  rw [htext, htext'] at h
  have hscan := literal.scan?_chars hproper hm
  rw [h, other.scan?_chars hproper' hn] at hscan
  obtain ⟨rfl, rfl⟩ := Prod.mk.inj (Option.some.inj hscan)
  exact ⟨Literal.eq_of_spells hspells hspells', rfl⟩

end RecordQuery.JsonNumber
