import RecordQuery.Proofs.Condition.GlobAgreement
import RecordQuery.Proofs.Condition.NumberForms
import RecordQuery.Proofs.Numeric.DecimalText

/-!
# Values under their own texts

The text of a value, taken as a parameter value, asks for that value among others. A text may hold
stars wherever it likes: a star is a character that a pattern with a star matches, and stars at the
ends of a text do not change the lowercase form of what stands between them.
-/

namespace RecordQuery

namespace Text

variable {c : Char}

/-- A character that is neither skipped nor has case ends the search for a letter with case. -/
theorem meetsCased_append_cons (hignorable : isCaseIgnorable c = false) (hcased : isCased c = false)
    (cs rest : List Char) : meetsCased (cs ++ c :: rest) = meetsCased cs := by
  induction cs with
  | nil =>
    simp only [meetsCased, List.nil_append, List.dropWhile_cons, hignorable, Bool.false_eq_true,
      if_false, List.dropWhile_nil]
    exact hcased
  | cons d cs ih =>
    simp only [meetsCased, List.cons_append, List.dropWhile_cons] at ih ⊢
    cases hd : isCaseIgnorable d with
    | true => exact ih
    | false => rfl

theorem meetsCased_append_stars (cs : List Char) (n : Nat) :
    meetsCased (cs ++ List.replicate n '*') = meetsCased cs := by
  cases n with
  | zero => rw [List.replicate_zero, List.append_nil]
  | succ n =>
    rw [List.replicate_succ]
    exact meetsCased_append_cons (by set_option maxRecDepth 2000 in decide) (by decide) cs _

theorem not_sigmaDiffers_of_stars (m n : Nat) (part : List Char) :
    ¬SigmaDiffers (List.replicate m '*') part (List.replicate n '*') := by
  rintro ⟨front, back, rfl, hdiffers⟩
  apply hdiffers
  rw [endsWord, endsWord, List.reverse_append, List.reverse_replicate, meetsCased_append_stars,
    meetsCased_append_stars]

end Text

namespace Condition

variable {type : FieldType} {n : Number}

/-! ## Texts -/

theorem holds_between_of_stars (m n : Nat) (core : List Char) :
    (between (0 < m) (0 < n) (String.ofList core)).holds
      (.text (String.ofList (List.replicate m '*' ++ (core ++ List.replicate n '*')))) = true := by
  rw [holds_between_iff, String.toList_ofList, String.toList_ofList, Text.lowerChars_append,
    Text.lowerWithin_eq_lowerChars_iff.mpr (Text.not_sigmaDiffers_of_stars m n core)]
  refine ⟨_, _, rfl, ?_, ?_⟩
  · intro hnone
    obtain rfl : m = 0 := by simpa using hnone
    rfl
  · intro hnone
    obtain rfl : n = 0 := by simpa using hnone
    rfl

/-- A text whose pattern the library refuses is refused; every other one is read as a condition that
holds of the text itself. -/
theorem ofText_self [RegexLibrary] (s : String) :
    (∃ message, RegexLibrary.refusal? (Glob.regex ⟨s⟩) = some message ∧
        ofText s = .error (.pattern message)) ∨
      ∃ condition, ofText s = .ok condition ∧ condition.holds (.text s) = true := by
  by_cases hstar : '*' ∈ s.toList
  · by_cases hinner : '*' ∈ Text.strip (· = '*') s.toList
    · rw [ofText_eq, if_neg (not_not_intro hstar), if_pos hinner]
      cases hrefusal : RegexLibrary.refusal? (Glob.regex ⟨s⟩) with
      | some message =>
        left
        refine ⟨message, rfl, ?_⟩
        simp only [Glob.compile, hrefusal]
        rfl
      | none =>
        right
        refine ⟨wildcard ⟨s⟩, ?_, ?_⟩
        · rw [Glob.compile_eq_ok_iff.mpr ⟨hrefusal, rfl⟩]
          rfl
        · exact (Glob.isMatch_iff_spells ⟨s⟩ s).mpr (Glob.spells_segments_self s.toList)
    · right
      obtain ⟨m, n, hs⟩ := exists_stars s.toList
      generalize Text.strip (· = '*') s.toList = core at hs hinner
      rw [← String.ofList_toList (s := s), hs]
      by_cases hne : core = []
      · obtain ⟨k, hk⟩ : ∃ k, m + n = k + 1 := by
          rw [hs, hne, List.nil_append, List.replicate_append_replicate] at hstar
          exact Nat.exists_eq_succ_of_ne_zero (List.mem_replicate.mp hstar).1
        rw [hne, List.nil_append, List.replicate_append_replicate, hk]
        refine ⟨_, ofText_stars k, ?_⟩
        rw [holds_between_iff]
        exact ⟨[], _, rfl, by simp, by simp⟩
      · exact ⟨_, ofText_between m n hinner hne, holds_between_of_stars m n core⟩
  · right
    refine ⟨exact (.text s), ?_, ?_⟩
    · rw [ofText_eq, if_pos hstar]
    · rw [holds]
      exact beq_self_eq_true _

/-! ## Numbers -/

theorem classify_of_readNumber? [RegexLibrary] (htype : type.isNumeric = true) {raw : String}
    (hread : type.readNumber? raw.toList = some n) :
    classify type raw = .ok (exact (.number n)) := by
  have hform : (NumberForm.number raw).read? type = some (exact (.number n)) := by
    rw [NumberForm.read?, hread]
    rfl
  rw [classify_of_isNumeric htype]
  exact ofNumberText_of_form hform rfl

theorem readNumber?_intText (n : Int64) :
    FieldType.readNumber? .integer (Digits.intText n.toInt).toList = some (.signed n) := by
  have hread := Digits.readInt64?_intText n
  have hshape := Digits.numberShape_of_readInt64? hread
  rw [FieldType.readNumber?, Text.trimChars_of_all hshape.isBlank_eq_false, hread]
  rfl

theorem readNumber?_decimalText (d : Decimal) :
    FieldType.readNumber? .decimal d.text.toList = some (.decimal d.withoutZeroSign) := by
  have hread := Decimal.read?_chars d
  have hshape := Decimal.numberShape_of_read? hread
  rw [FieldType.readNumber?, Decimal.text, String.toList_ofList,
    Text.trimChars_of_all hshape.isBlank_eq_false, hread]
  rfl

theorem holds_exact_of_compare {value operand : Number} (h : value.compare operand = some .eq) :
    (exact (.number operand)).holds (.number value) = true := by
  rw [holds, compares, h]
  rfl

/-! ## Fields -/

/-- The text, as a parameter value for a field of the type, is a condition that holds of the
value. -/
def Finds [RegexLibrary] (type : FieldType) (raw : String) (value : Value) : Prop :=
  ∃ condition, classify type raw = .ok condition ∧ condition.holds value = true

/-- A value is found by its own text. This goes for every text, with stars in any places, unless it
is refused because the library refuses its pattern, for every whole number of 64 bits, and for every
decimal in each of its scales. -/
theorem found_by_own_text [RegexLibrary] :
    (∀ type : FieldType, type.isTextual = true → ∀ s : String,
      (∃ message, RegexLibrary.refusal? (Glob.regex ⟨s⟩) = some message ∧
        classify type s = .error (.pattern message)) ∨ Finds type s (.text s)) ∧
    (∀ n : Int64, Finds .integer (Number.signed n).text (.number (.signed n))) ∧
    ∀ d : Decimal, Finds .decimal (Number.decimal d).text (.number (.decimal d)) := by
  refine ⟨?_, ?_, ?_⟩
  · intro type htype s
    unfold Finds
    rw [classify_of_isTextual htype]
    exact ofText_self s
  · intro n
    refine ⟨_, classify_of_readNumber? rfl (readNumber?_intText n), ?_⟩
    apply holds_exact_of_compare
    rw [Number.compare]
    exact congrArg some Std.ReflOrd.compare_self
  · intro d
    refine ⟨_, classify_of_readNumber? rfl (readNumber?_decimalText d), ?_⟩
    apply holds_exact_of_compare
    exact congrArg some (Decimal.compare_withoutZeroSign d)

/-- A capital sigma that ends a word before a star, the least whole number, whose hyphen is a sign,
and a negative zero of two places. -/
theorem found_by_own_text_of_hard_texts :
    letI : RegexLibrary := .permissive
    FieldType.isTextual .datetime = true ∧
      RegexLibrary.refusal? (Glob.regex ⟨"*ΑΣ*"⟩) = none ∧
      Finds .datetime "*ΑΣ*" (.text "*ΑΣ*") ∧
      Finds .integer "-9223372036854775808" (.number (.signed Int64.minValue)) ∧
      Finds .decimal "-0.00" (.number (.decimal ⟨true, 0, 2, by decide, by decide⟩)) := by
  let : RegexLibrary := .permissive
  obtain ⟨htexts, hintegers, hdecimals⟩ := found_by_own_text
  have htype : FieldType.isTextual .datetime = true := rfl
  have hrefusal : RegexLibrary.refusal? (Glob.regex ⟨"*ΑΣ*"⟩) = none := rfl
  have hleast : (Number.signed Int64.minValue).text = "-9223372036854775808" := by decide
  have hzero : (Number.decimal ⟨true, 0, 2, by decide, by decide⟩).text = "-0.00" := by
    decide
  have htext := (htexts .datetime htype "*ΑΣ*").resolve_left fun ⟨_, hrefused, _⟩ =>
    nomatch hrefusal.symm.trans hrefused
  exact ⟨htype, hrefusal, htext, hleast ▸ hintegers Int64.minValue,
    hzero ▸ hdecimals ⟨true, 0, 2, by decide, by decide⟩⟩

end Condition

end RecordQuery
