import RecordQuery.Text.Utf8

/-!
# Reading UTF-8 back

Main statement: `decode (encode cs) = cs`. Each of the four written lengths of a character is read
by one branch of `decode`.
-/

namespace RecordQuery.Text.Utf8

/-! ## The branches of `decode` -/

theorem decode_one {a : UInt8} (ha : a.toNat < 0x80) (rest : List UInt8) :
    decode (a :: rest) = Char.ofNat a.toNat :: decode rest := by
  rw [decode.eq_def]
  simp only [ha, ↓reduceIte]

theorem decode_two {a b : UInt8} (ha : 0xC2 ≤ a.toNat ∧ a.toNat ≤ 0xDF)
    (hb : isContinuation b = true) (rest : List UInt8) :
    decode (a :: b :: rest) = ofGroups (a.toNat - 0xC0) [b] :: decode rest := by
  have hone : ¬a.toNat < 0x80 := by omega
  rw [decode]
  simp only [hone, ha, hb, and_self, ↓reduceIte]

theorem decode_three {a b c : UInt8} (ha : 0xE0 ≤ a.toNat ∧ a.toNat ≤ 0xEF)
    (hb : secondFits a b = true) (hc : isContinuation c = true) (rest : List UInt8) :
    decode (a :: b :: c :: rest) = ofGroups (a.toNat - 0xE0) [b, c] :: decode rest := by
  have hone : ¬a.toNat < 0x80 := by omega
  have htwo : ¬(0xC2 ≤ a.toNat ∧ a.toNat ≤ 0xDF) := by omega
  rw [decode]
  simp only [hone, htwo, ha, hb, hc, and_self, Bool.not_true, Bool.false_eq_true, ↓reduceIte]

theorem decode_four {a b c d : UInt8} (ha : 0xF0 ≤ a.toNat ∧ a.toNat ≤ 0xF4)
    (hb : secondFits a b = true) (hc : isContinuation c = true) (hd : isContinuation d = true)
    (rest : List UInt8) :
    decode (a :: b :: c :: d :: rest) = ofGroups (a.toNat - 0xF0) [b, c, d] :: decode rest := by
  have hone : ¬a.toNat < 0x80 := by omega
  have htwo : ¬(0xC2 ≤ a.toNat ∧ a.toNat ≤ 0xDF) := by omega
  have hthree : ¬(0xE0 ≤ a.toNat ∧ a.toNat ≤ 0xEF) := by omega
  rw [decode]
  simp only [hone, htwo, hthree, ha, hb, hc, hd, and_self, Bool.not_true, Bool.false_eq_true,
    ↓reduceIte]

/-! ## The bytes that `encodeChar` writes -/

theorem toNat_ofNat_of_lt {n : Nat} (h : n < 256) : (UInt8.ofNat n).toNat = n := by
  rw [UInt8.toNat_ofNat']
  exact Nat.mod_eq_of_lt h

theorem toNat_group (n : Nat) : (UInt8.ofNat (0x80 + n % 64)).toNat = 0x80 + n % 64 := by
  apply toNat_ofNat_of_lt
  omega

theorem isContinuation_ofNat (n : Nat) :
    isContinuation (UInt8.ofNat (0x80 + n % 64)) = true := by
  simp only [isContinuation, toNat_group, Bool.and_eq_true, decide_eq_true_eq]
  omega

/-- The lead byte of a number of three groups takes its second byte: the number is not written
shorter and is no surrogate. -/
theorem secondFits_three {n : Nat} (h : 0x800 ≤ n) (h' : n < 0x10000)
    (hs : n < 0xD800 ∨ 0xDFFF < n) :
    secondFits (UInt8.ofNat (0xE0 + n / 4096)) (UInt8.ofNat (0x80 + n / 64 % 64)) = true := by
  have hlead : 0xE0 + n / 4096 < 256 := by omega
  simp only [secondFits, toNat_ofNat_of_lt hlead, toNat_group, Bool.and_eq_true,
    decide_eq_true_eq]
  constructor <;> split <;> try split
  all_goals omega

/-- The lead byte of a number of four groups takes its second byte: the number is not written
shorter and is not past the last character. -/
theorem secondFits_four {n : Nat} (h : 0x10000 ≤ n) (h' : n < 0x110000) :
    secondFits (UInt8.ofNat (0xF0 + n / 262144)) (UInt8.ofNat (0x80 + n / 4096 % 64)) = true := by
  have hlead : 0xF0 + n / 262144 < 256 := by omega
  simp only [secondFits, toNat_ofNat_of_lt hlead, toNat_group, Bool.and_eq_true,
    decide_eq_true_eq]
  constructor <;> split <;> try split
  all_goals omega

theorem decode_encodeChar (c : Char) (rest : List UInt8) :
    decode (encodeChar c ++ rest) = c :: decode rest := by
  have hvalid : c.toNat < 0xD800 ∨ 0xDFFF < c.toNat ∧ c.toNat < 0x110000 := c.valid
  have hc := Char.ofNat_toNat c
  simp only [encodeChar]
  generalize c.toNat = n at hvalid hc
  by_cases h1 : n < 0x80
  · have hlead : (UInt8.ofNat n).toNat = n := toNat_ofNat_of_lt (by omega)
    rw [if_pos h1, List.singleton_append, decode_one (by omega), hlead, hc]
  by_cases h2 : n < 0x800
  · have hlead : (UInt8.ofNat (0xC0 + n / 64)).toNat = 0xC0 + n / 64 :=
      toNat_ofNat_of_lt (by omega)
    have hgroups : (0xC0 + n / 64 - 0xC0) * 64 + (0x80 + n % 64 - 0x80) = n := by omega
    rw [if_neg h1, if_pos h2]
    simp only [List.cons_append, List.nil_append]
    rw [decode_two (by omega) (isContinuation_ofNat n)]
    simp only [ofGroups, List.foldl, hlead, toNat_group]
    rw [hgroups, hc]
  by_cases h3 : n < 0x10000
  · have hlead : (UInt8.ofNat (0xE0 + n / 4096)).toNat = 0xE0 + n / 4096 :=
      toNat_ofNat_of_lt (by omega)
    have hgroups : ((0xE0 + n / 4096 - 0xE0) * 64 + (0x80 + n / 64 % 64 - 0x80)) * 64 +
        (0x80 + n % 64 - 0x80) = n := by omega
    rw [if_neg h1, if_neg h2, if_pos h3]
    simp only [List.cons_append, List.nil_append]
    rw [decode_three (by omega) (secondFits_three (by omega) h3 (by omega))
      (isContinuation_ofNat n)]
    simp only [ofGroups, List.foldl, hlead, toNat_group]
    rw [hgroups, hc]
  · have hlead : (UInt8.ofNat (0xF0 + n / 262144)).toNat = 0xF0 + n / 262144 :=
      toNat_ofNat_of_lt (by omega)
    have hgroups : (((0xF0 + n / 262144 - 0xF0) * 64 + (0x80 + n / 4096 % 64 - 0x80)) * 64 +
        (0x80 + n / 64 % 64 - 0x80)) * 64 + (0x80 + n % 64 - 0x80) = n := by omega
    rw [if_neg h1, if_neg h2, if_neg h3]
    simp only [List.cons_append, List.nil_append]
    rw [decode_four (by omega) (secondFits_four (by omega) (by omega)) (isContinuation_ofNat _)
      (isContinuation_ofNat n)]
    simp only [ofGroups, List.foldl, hlead, toNat_group]
    rw [hgroups, hc]

/-- Written characters are read back. -/
theorem decode_encode (cs : List Char) : decode (encode cs) = cs := by
  induction cs with
  | nil => rfl
  | cons c cs ih =>
    have h := decode_encodeChar c (encode cs)
    rw [ih] at h
    exact h

end RecordQuery.Text.Utf8
