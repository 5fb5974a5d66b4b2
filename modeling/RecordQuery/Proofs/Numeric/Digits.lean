import Mathlib.Algebra.Order.Ring.Int
import RecordQuery.Numeric.Digits
import RecordQuery.Proofs.Text.Blank

/-!
# Reading digits back

The digits of a whole number are read as that number, with or without a trim, as long as it fits
the width that is read.
-/

namespace RecordQuery

namespace Digits

theorem isDigit_of_mem_ofNat {n : Nat} {c : Char} (hc : c ∈ ofNat n) : c.isDigit = true :=
  Nat.isDigit_of_mem_toDigits (by decide) (by decide) hc

theorem toNat_of_isDigit {c : Char} (h : c.isDigit = true) : 0x30 ≤ c.toNat ∧ c.toNat ≤ 0x39 := by
  simp only [Char.isDigit, Bool.and_eq_true, decide_eq_true_eq, ge_iff_le,
    UInt32.le_iff_toNat_le] at h
  exact h

theorem isBlank_of_isDigit {c : Char} (h : c.isDigit = true) : Text.isBlank c = false := by
  have hc := toNat_of_isDigit h
  simp only [Text.isBlank, Bool.or_eq_false_iff, Bool.and_eq_false_iff, decide_eq_false_iff_not,
    beq_eq_false_iff_ne]
  omega

theorem trimChars_ofNat (n : Nat) : Text.trimChars (ofNat n) = ofNat n :=
  Text.trimChars_of_all fun _ hc => isBlank_of_isDigit (isDigit_of_mem_ofNat hc)

theorem readNat?_ofNat (n : Nat) : readNat? (ofNat n) = some n := by
  have hne : (ofNat n).isEmpty = false := by
    rw [List.isEmpty_eq_false_iff]
    exact Nat.toDigits_ne_nil
  have hall : (ofNat n).all Char.isDigit = true :=
    List.all_eq_true.mpr fun c hc => isDigit_of_mem_ofNat hc
  rw [readNat?, hne, hall, value_ofNat]
  rfl

theorem readInt?_ofNat (n : Nat) : readInt? (ofNat n) = some (n : Int) := by
  have hread := readNat?_ofNat n
  have hdigit : ∀ c ∈ ofNat n, c.isDigit = true := fun _ hc => isDigit_of_mem_ofNat hc
  unfold readInt?
  split
  · rename_i heq
    rw [heq] at hdigit
    exact absurd (hdigit '-' List.mem_cons_self) (by decide)
  · rename_i heq
    rw [heq] at hdigit
    exact absurd (hdigit '+' List.mem_cons_self) (by decide)
  · rw [hread]
    rfl

theorem readUnsigned?_ofNat (n : Nat) : readUnsigned? (ofNat n) = some n := by
  have hdigit : ∀ c ∈ ofNat n, c.isDigit = true := fun _ hc => isDigit_of_mem_ofNat hc
  unfold readUnsigned?
  split
  · rename_i heq
    rw [heq] at hdigit
    exact absurd (hdigit '+' List.mem_cons_self) (by decide)
  · exact readNat?_ofNat n

theorem readUInt64?_natText (n : UInt64) :
    readUInt64? (Text.trimChars (natText n.toNat).toList) = some n := by
  rw [natText, String.toList_ofList, trimChars_ofNat, readUInt64?, readUnsigned?_ofNat,
    Option.bind_some, if_pos n.toNat_lt, UInt64.ofNat_toNat]

/-- The written form of a whole number is read as that number if 64 bits with a sign hold it. -/
theorem readInt64?_natText (n : Nat) :
    (readInt64? (Text.trimChars (natText n).toList)).map Int64.toInt =
      if n < 2 ^ 63 then some (n : Int) else none := by
  rw [natText, String.toList_ofList, trimChars_ofNat, readInt64?, readInt?_ofNat, Option.bind_some]
  by_cases h : n < 2 ^ 63
  · rw [if_pos (by omega), if_pos h, Option.map_some,
      Int64.toInt_ofInt_of_le (by omega) (by omega)]
  · rw [if_neg (by omega), if_neg h, Option.map_none]

theorem readInt?_intText (n : Int) : readInt? (intText n).toList = some n := by
  unfold intText
  split
  · rename_i hnegative
    have hsize : -(n.natAbs : Int) = n := by omega
    rw [String.toList_ofList, readInt?, readNat?_ofNat]
    exact congrArg some hsize
  · rename_i hnegative
    rw [natText, String.toList_ofList, readInt?_ofNat]
    congr 1
    omega

theorem readInt64?_intText (n : Int64) : readInt64? (intText n.toInt).toList = some n := by
  have hlow := n.le_toInt
  have hhigh := n.toInt_lt
  rw [readInt64?, readInt?_intText, Option.bind_some, if_pos (by omega), Int64.ofInt_toInt]

/-! ## What is read as a whole number -/

/-- The text is digits behind a plus sign or none, and they stand for the number. -/
def IsUnsigned (cs : List Char) (n : Nat) : Prop :=
  ∃ digits, (cs = digits ∨ cs = '+' :: digits) ∧ digits ≠ [] ∧
    (∀ c ∈ digits, c.isDigit = true) ∧ value digits = n

theorem readNat?_eq_some_iff {cs : List Char} {n : Nat} :
    readNat? cs = some n ↔ cs ≠ [] ∧ (∀ c ∈ cs, c.isDigit = true) ∧ value cs = n := by
  unfold readNat?
  by_cases hne : cs = []
  · simp [hne]
  · by_cases hdigits : ∀ c ∈ cs, c.isDigit = true
    · have hall : cs.all Char.isDigit = true := List.all_eq_true.mpr hdigits
      rw [List.isEmpty_eq_false_iff.mpr hne, hall]
      exact ⟨fun h => ⟨hne, hdigits, Option.some.inj h⟩, fun h => congrArg some h.2.2⟩
    · have hall : cs.all Char.isDigit = false := by
        rw [Bool.eq_false_iff]
        exact fun hall => hdigits (List.all_eq_true.mp hall)
      simp only [hall, Bool.not_false, Bool.or_true, if_true]
      exact iff_of_false (fun h => nomatch h) fun h => hdigits h.2.1

theorem readUnsigned?_eq_some_iff {cs : List Char} {n : Nat} :
    readUnsigned? cs = some n ↔ IsUnsigned cs n := by
  constructor
  · intro h
    unfold readUnsigned? at h
    split at h
    · exact ⟨_, Or.inr rfl, readNat?_eq_some_iff.mp h⟩
    · exact ⟨_, Or.inl rfl, readNat?_eq_some_iff.mp h⟩
  · rintro ⟨digits, rfl | rfl, h⟩
    · have hplus : '+' ∉ cs := fun hmem => absurd (h.2.1 '+' hmem) (by decide)
      unfold readUnsigned?
      split
      · exact absurd List.mem_cons_self hplus
      · exact readNat?_eq_some_iff.mpr h
    · exact readNat?_eq_some_iff.mpr h

theorem readUInt64?_eq_some_iff {cs : List Char} {n : UInt64} :
    readUInt64? cs = some n ↔ IsUnsigned cs n.toNat := by
  rw [readUInt64?, ← readUnsigned?_eq_some_iff]
  constructor
  · intro h
    obtain ⟨m, hm, hn⟩ := Option.bind_eq_some_iff.mp h
    split at hn
    · rename_i hlt
      obtain rfl := Option.some.inj hn
      rw [hm, UInt64.toNat_ofNat_of_lt' hlt]
    · exact nomatch hn
  · intro h
    rw [h, Option.bind_some, if_pos n.toNat_lt, UInt64.ofNat_toNat]

/-! ## Values of digits -/

theorem le_ofDigitChars (cs : List Char) (size : Nat) : size ≤ Nat.ofDigitChars 10 cs size := by
  rw [Nat.ofDigitChars_eq_ofDigitChars_zero]
  have hpower : 0 < 10 ^ cs.length := Nat.pow_pos (by decide)
  exact Nat.le_add_right_of_le (Nat.le_mul_of_pos_left size hpower)

theorem value_append (cs ds : List Char) :
    value (cs ++ ds) = Nat.ofDigitChars 10 ds (value cs) := by
  rw [value, value, Nat.ofDigitChars_append]

theorem value_replicate_zero_append (n : Nat) (cs : List Char) :
    value (List.replicate n '0' ++ cs) = value cs := by
  rw [value_append, value, Nat.ofDigitChars_replicate_zero, Nat.mul_zero, value]

theorem value_append_replicate_zero (cs : List Char) (n : Nat) :
    value (cs ++ List.replicate n '0') = 10 ^ n * value cs := by
  rw [value_append, Nat.ofDigitChars_replicate_zero]

/-! ## Zeros before digits -/

theorem isDigit_of_mem_zeros {n : Nat} {c : Char} (hc : c ∈ List.replicate n '0') :
    c.isDigit = true := by
  rw [List.eq_of_mem_replicate hc]
  rfl

/-- The digits behind as many zeros as it takes to set a point with `places` of them behind it and
at least one before it. -/
def padded (places : Nat) (ds : List Char) : List Char :=
  List.replicate (places + 1 - ds.length) '0' ++ ds

def wholePart (places : Nat) (ds : List Char) : List Char :=
  (padded places ds).take ((padded places ds).length - places)

def fractionPart (places : Nat) (ds : List Char) : List Char :=
  (padded places ds).drop ((padded places ds).length - places)

section Padded

variable {places : Nat} {ds : List Char}

theorem wholePart_append_fractionPart (places : Nat) (ds : List Char) :
    wholePart places ds ++ fractionPart places ds = padded places ds :=
  List.take_append_drop _ _

theorem value_padded (places : Nat) (ds : List Char) : value (padded places ds) = value ds :=
  value_replicate_zero_append _ ds

theorem isDigit_of_mem_padded (hds : ∀ c ∈ ds, c.isDigit = true) :
    ∀ c ∈ padded places ds, c.isDigit = true := by
  intro c hc
  rcases List.mem_append.mp hc with hzero | hdigit
  · exact isDigit_of_mem_zeros hzero
  · exact hds c hdigit

theorem lt_length_padded (places : Nat) (ds : List Char) : places < (padded places ds).length := by
  rw [padded, List.length_append, List.length_replicate]
  omega

theorem wholePart_ne_nil (places : Nat) (ds : List Char) : wholePart places ds ≠ [] := by
  have hlt := lt_length_padded places ds
  apply List.ne_nil_of_length_pos
  rw [wholePart, List.length_take]
  omega

theorem length_fractionPart (places : Nat) (ds : List Char) :
    (fractionPart places ds).length = places := by
  have hlt := lt_length_padded places ds
  rw [fractionPart, List.length_drop]
  omega

/-- Only a single zero is put before the point. -/
theorem length_wholePart_le_one (hds : ds.head? ≠ some '0')
    (hzero : (wholePart places ds).head? = some '0') : (wholePart places ds).length ≤ 1 := by
  rw [wholePart, List.length_take]
  by_cases hshort : ds.length ≤ places
  · have hlength : (padded places ds).length = places + 1 := by
      rw [padded, List.length_append, List.length_replicate]
      omega
    omega
  · have hself : padded places ds = ds := by
      have hnone : places + 1 - ds.length = 0 := by omega
      rw [padded, hnone, List.replicate_zero, List.nil_append]
    rw [wholePart, hself, List.head?_take, if_neg (by omega)] at hzero
    exact absurd hzero hds

end Padded

/-! ## How many digits there are, and which is first -/

theorem lt_pow_length (n : Nat) : n < 10 ^ (ofNat n).length :=
  (Nat.length_toDigits_le_iff (by decide) Nat.length_toDigits_pos).mp (Nat.le_refl _)

theorem pow_le_of_ne_zero {n : Nat} (h : n ≠ 0) : 10 ^ ((ofNat n).length - 1) ≤ n := by
  have hpos : 0 < (ofNat n).length := Nat.length_toDigits_pos
  by_cases hone : (ofNat n).length - 1 = 0
  · rw [hone]
    exact Nat.pos_of_ne_zero h
  · apply Nat.not_lt.mp
    intro hlt
    have hle : (ofNat n).length ≤ (ofNat n).length - 1 :=
      (Nat.length_toDigits_le_iff (by decide) (Nat.pos_of_ne_zero hone)).mpr hlt
    omega

theorem ne_zero_of_mem_head?_ofNat {n : Nat} (h : n ≠ 0) : ∀ c ∈ (ofNat n).head?, c ≠ '0' := by
  have hdigit : ∀ k < 10, k ≠ 0 → Nat.digitChar k ≠ '0' := by decide
  induction n using Nat.strongRecOn with
  | ind n ih =>
    intro c hc
    rw [ofNat, Nat.toDigits_eq_if (by decide)] at hc
    split at hc
    · rename_i hlt
      obtain rfl := Option.some.inj hc
      exact hdigit n hlt h
    · rename_i hge
      apply ih (n / 10) (by omega) (by omega) c
      cases hfront : ofNat (n / 10) with
      | nil => exact absurd hfront Nat.toDigits_ne_nil
      | cons d rest =>
        rw [← ofNat, hfront] at hc
        exact hc

end Digits

end RecordQuery
