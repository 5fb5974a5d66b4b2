import RecordQuery.Proofs.Text.Utf8
import RecordQuery.Text.Percent

/-!
# Reading percent-coded text back

Main statements: `decodeChars (encodeChars cs) = cs`, and coded text holds letters, digits, `-`,
`.`, `_`, `~` and `%` alone, so none of the characters that separate the parts of a query string.
-/

namespace RecordQuery.Text.Percent

def isCoded (c : Char) : Bool := isPlain c.toNat || c == '%'

theorem lt_of_isPlain {n : Nat} (h : isPlain n = true) : n < 0x80 ∧ n ≠ 0x25 := by
  simp only [isPlain, Bool.or_eq_true, Bool.and_eq_true, decide_eq_true_eq, beq_iff_eq] at h
  omega

theorem toNat_ofNat_of_lt {n : Nat} (h : n < 0x80) : (Char.ofNat n).toNat = n := by
  have hvalid : n.isValidChar := Or.inl (by omega)
  rw [Char.ofNat, dif_pos hvalid]
  rfl

theorem isPlain_hexDigit : ∀ n < 16, isPlain (hexDigit n).toNat = true := by decide

theorem hexValue?_hexDigit :
    ∀ n < 16, hexValue? (UInt8.ofNat (hexDigit n).toNat) = some n := by decide

theorem isCoded_of_mem_encodeByte {b : UInt8} {c : Char} (hc : c ∈ encodeByte b) :
    isCoded c = true := by
  have hb := b.toNat_lt
  unfold encodeByte at hc
  split at hc
  · rename_i h
    rw [List.mem_singleton] at hc
    subst hc
    simp only [isCoded, toNat_ofNat_of_lt (lt_of_isPlain h).1, h, Bool.true_or]
  · simp only [List.mem_cons, List.not_mem_nil, or_false] at hc
    rcases hc with rfl | rfl | rfl
    · rfl
    · have hhigh : b.toNat / 16 < 16 := by omega
      simp only [isCoded, isPlain_hexDigit _ hhigh, Bool.true_or]
    · have hlow : b.toNat % 16 < 16 := Nat.mod_lt _ (by decide)
      simp only [isCoded, isPlain_hexDigit _ hlow, Bool.true_or]

theorem isCoded_of_mem_encodeChars {cs : List Char} {c : Char} (hc : c ∈ encodeChars cs) :
    isCoded c = true := by
  obtain ⟨b, _, hb⟩ := List.mem_flatMap.mp hc
  exact isCoded_of_mem_encodeByte hb

theorem not_mem_encodeChars {c : Char} (h : isCoded c = false) (cs : List Char) :
    c ∉ encodeChars cs := by
  intro hc
  rw [isCoded_of_mem_encodeChars hc] at h
  exact Bool.noConfusion h

/-! ## Reading back -/

theorem encodeChar_of_lt {c : Char} (h : c.toNat < 0x80) :
    Utf8.encodeChar c = [UInt8.ofNat c.toNat] := by
  simp only [Utf8.encodeChar, h, ↓reduceIte]

theorem decodeBytes_cons_of_ne {b : UInt8} (h : b.toNat ≠ 0x25) (rest : List UInt8) :
    decodeBytes (b :: rest) = b :: decodeBytes rest := by
  match rest with
  | [] => rfl
  | [_] => rfl
  | _ :: _ :: _ => rw [decodeBytes, if_neg h]

theorem decodeBytes_encodeByte (b : UInt8) (rest : List UInt8) :
    decodeBytes (Utf8.encode (encodeByte b) ++ rest) = b :: decodeBytes rest := by
  have hb := b.toNat_lt
  unfold encodeByte
  split
  · rename_i h
    obtain ⟨hlt, hne⟩ := lt_of_isPlain h
    have hc := toNat_ofNat_of_lt hlt
    have hascii : (Char.ofNat b.toNat).toNat < 0x80 := by rwa [hc]
    simp only [Utf8.encode, List.flatMap_cons, List.flatMap_nil, List.append_nil,
      encodeChar_of_lt hascii, hc, UInt8.ofNat_toNat, List.singleton_append]
    exact decodeBytes_cons_of_ne hne rest
  · have hhigh : b.toNat / 16 < 16 := by omega
    have hlow : b.toNat % 16 < 16 := Nat.mod_lt _ (by decide)
    have hpercent : '%'.toNat < 0x80 := by decide
    obtain ⟨hhighAscii, _⟩ := lt_of_isPlain (isPlain_hexDigit _ hhigh)
    obtain ⟨hlowAscii, _⟩ := lt_of_isPlain (isPlain_hexDigit _ hlow)
    have hdigits : b.toNat / 16 * 16 + b.toNat % 16 = b.toNat := by omega
    simp only [Utf8.encode, List.flatMap_cons, List.flatMap_nil, List.append_nil,
      encodeChar_of_lt hpercent, encodeChar_of_lt hhighAscii, encodeChar_of_lt hlowAscii,
      List.cons_append, List.nil_append]
    rw [decodeBytes, if_pos (by decide), hexValue?_hexDigit _ hhigh, hexValue?_hexDigit _ hlow]
    simp only
    rw [hdigits, UInt8.ofNat_toNat]

theorem decodeBytes_encodeBytes (bs : List UInt8) :
    decodeBytes (Utf8.encode (bs.flatMap encodeByte)) = bs := by
  induction bs with
  | nil => rfl
  | cons b bs ih =>
    have h := decodeBytes_encodeByte b (Utf8.encode (bs.flatMap encodeByte))
    rw [ih] at h
    rw [List.flatMap_cons, Utf8.encode, List.flatMap_append]
    exact h

/-- Coded text is read back. -/
theorem decodeChars_encodeChars (cs : List Char) : decodeChars (encodeChars cs) = cs := by
  have hspaced : (encodeChars cs).map (fun c => if c = '+' then ' ' else c) = encodeChars cs := by
    conv => rhs; rw [← List.map_id (encodeChars cs)]
    apply List.map_congr_left
    intro c hc
    rw [if_neg, id]
    rintro rfl
    exact not_mem_encodeChars (by decide) cs hc
  rw [decodeChars, hspaced, encodeChars, decodeBytes_encodeBytes, Utf8.decode_encode]

end RecordQuery.Text.Percent
