import RecordQuery.Proofs.FieldRules
import RecordQuery.Proofs.Json.Records
import RecordQuery.Proofs.Numeric.Digits
import RecordQuery.Proofs.Schema
import RecordQuery.Proofs.Text.Blank

/-!
# Clean payloads

A clean payload passes the rules that made it, and passes unchanged: a check takes its own result
for what it is. The fields of a clean payload are fields of the payload that the rules let through.
-/

namespace RecordQuery

/-! ## Texts of numbers -/

theorem Text.isBlankText_of_mem {s : String} {c : Char} (hmem : c ∈ s.toList)
    (hc : isBlank c = false) : isBlankText s = false := by
  apply List.all_eq_false.mpr
  exact ⟨c, hmem, by rw [hc]; exact Bool.false_ne_true⟩

theorem Digits.isBlankText_intText (n : Int) : Text.isBlankText (intText n) = false := by
  obtain ⟨c, hc⟩ := List.exists_mem_of_ne_nil (ofNat n.natAbs) Nat.toDigits_ne_nil
  unfold intText
  split
  · exact Text.isBlankText_of_mem (c := '-') (by simp) (by decide)
  · apply Text.isBlankText_of_mem (c := c)
    · rwa [natText, String.toList_ofList]
    · exact isBlank_of_isDigit (isDigit_of_mem_ofNat hc)

namespace Binary64

theorem point_mem_positional (digits : List Char) (exponent : Int) :
    '.' ∈ positional digits exponent true := by
  unfold positional
  split <;> simp

theorem Finite.mem_dataText (x : Finite) :
    '.' ∈ x.dataText.toList ∨ 'e' ∈ x.dataText.toList := by
  have hsigned {c : Char} {body : List Char} (hc : c ∈ body) :
      c ∈ (String.ofList (if x.negative then '-' :: body else body)).toList := by
    rw [String.toList_ofList]
    split
    · exact List.mem_cons_of_mem _ hc
    · exact hc
  by_cases hzero : x.significand = 0
  · rw [dataText, if_pos hzero]
    exact Or.inl (hsigned (by simp))
  · rw [dataText, if_neg hzero]
    dsimp only
    by_cases hplain : -5 ≤ (x.shortest .even).2 + (x.shortest .even).1.length - 1 ∧
        (x.shortest .even).2 + (x.shortest .even).1.length - 1 < 16
    · rw [if_pos hplain]
      exact Or.inl (hsigned (point_mem_positional _ _))
    · rw [if_neg hplain]
      exact Or.inr (hsigned (List.mem_append_right _ List.mem_cons_self))

end Binary64

/-- A number is never written as blanks, so that a field of text takes the text of any number. -/
theorem JsonNumber.isBlankText_text (n : JsonNumber) : Text.isBlankText n.text = false := by
  cases n with
  | integer n lower upper => exact Digits.isBlankText_intText n
  | float x =>
    rcases x.mem_dataText with hpoint | hletter
    · exact Text.isBlankText_of_mem hpoint (by decide)
    · exact Text.isBlankText_of_mem hletter (by decide)

theorem FieldType.Holds.isNull {type : FieldType} {value : Json} (h : type.Holds value) :
    value.isNull = false := by
  cases h <;> rfl

namespace FieldRules

variable {rules : FieldRules} {payload : Entries} {partially : Bool} {field : Field}

/-! ## Checking a clean value -/

section Check

variable {required : Bool} {raw value : Json}

theorem checkText_of_checkText (h : checkText required raw = .ok value) :
    checkText required value = .ok value := by
  unfold checkText at h
  split at h
  · split at h
    · exact nomatch h
    · rename_i s hfine
      obtain rfl := Except.ok.inj h
      exact if_neg hfine
  · rename_i n
    obtain rfl := Except.ok.inj h
    apply if_neg
    rw [n.isBlankText_text]
    exact Bool.false_ne_true
  · exact nomatch h

theorem checkDecimal_of_checkDecimal (h : checkDecimal raw = .ok value) :
    checkDecimal value = .ok value := by
  unfold checkDecimal at h
  split at h
  · obtain rfl := Except.ok.inj h
    rfl
  · split at h
    · rename_i s hread
      obtain rfl := Except.ok.inj h
      have htrim : Text.trimChars (Text.trim s).toList = Text.trimChars s.toList := by
        rw [Text.trim, String.toList_ofList, Text.trimChars_trimChars]
      rw [checkDecimal, htrim, if_pos hread, Text.trim, htrim, Text.trim]
    · exact nomatch h
  · exact nomatch h

theorem eq_of_checkDatetime (h : checkDatetime raw = .ok value) : value = raw := by
  unfold checkDatetime at h
  split at h
  · split at h
    · exact nomatch h
    · exact (Except.ok.inj h).symm
  · exact nomatch h

/-- The result of a check stands for itself: what is converted at all becomes a value of the type
at once, and no value of the type is converted again but for the blanks around a decimal. -/
theorem checkAs_of_checkAs {type : FieldType} (h : checkAs required type raw = .ok value) :
    checkAs required type value = .ok value := by
  cases type with
  | text => exact checkText_of_checkText h
  | integer =>
    cases holds_of_checkInteger h
    rfl
  | float =>
    cases holds_of_checkFloat h
    rfl
  | decimal => exact checkDecimal_of_checkDecimal h
  | datetime =>
    obtain rfl := eq_of_checkDatetime h
    exact h
  | boolean =>
    cases holds_of_checkBoolean h
    rfl
  | relation target =>
    obtain rfl := eq_of_checkRelation h
    exact h

theorem check_of_check (h : rules.check field raw = .ok value) :
    rules.check field value = .ok value := by
  cases hnull : raw.isNull with
  | true =>
    obtain ⟨rfl, hnullable⟩ := check_of_isNull h hnull
    have hisNull : Json.null.isNull = true := rfl
    rw [check, if_pos hisNull, if_pos hnullable]
  | false =>
    rw [check_of_not_isNull hnull] at h
    rw [check_of_not_isNull (holds_of_checkAs h).isNull]
    exact checkAs_of_checkAs h

end Check

/-! ## Checking a clean payload -/

section Nodup

variable (hnodup : (rules.schema.fields.map Field.name).Nodup)
include hnodup

/-- A field that passes comes to the same in the clean payload. -/
theorem checkField_clean (hfield : field ∈ rules.schema.fields)
    (hpasses : rules.Passes payload partially field) :
    rules.checkField (rules.clean payload partially) partially field =
      rules.checkField payload partially field := by
  cases hreadOnly : rules.readOnly.contains field.name with
  | true => rw [checkField, checkField, if_pos hreadOnly, if_pos hreadOnly]
  | false =>
    cases hraw : Entries.get? payload field.name with
    | none =>
      have hclean : Entries.get? (rules.clean payload partially) field.name = none :=
        get?_clean_of_absent hnodup hfield hraw
      rw [checkField, checkField, hraw, hclean]
    | some raw =>
      obtain ⟨value, hcheck, hclean⟩ := exists_of_given hnodup hfield hreadOnly hpasses hraw
      rw [checkField, checkField, hraw, hclean]
      dsimp only
      rw [hcheck, check_of_check hcheck]

theorem validate_clean (h : (rules.errors payload partially).isEmpty = true) :
    rules.validate (.object (rules.clean payload partially)) partially =
      .ok (.object (rules.clean payload partially)) := by
  have halike : ∀ field ∈ rules.schema.fields,
      rules.checkField (rules.clean payload partially) partially field =
        rules.checkField payload partially field :=
    fun _ hfield => checkField_clean hnodup hfield (passes_of_isEmpty_errors h hfield)
  have hempty : (rules.errors (rules.clean payload partially) partially).isEmpty = true := by
    rw [errors_congr halike]
    exact h
  rw [validate_of_isEmpty hempty, clean_congr halike]

/-- When nothing is complained about, the clean payload holds the declared fields of the payload
that are not read-only. -/
theorem exists_mem_clean_iff (h : (rules.errors payload partially).isEmpty = true) {key : String} :
    (∃ value, (key, value) ∈ rules.clean payload partially) ↔
      (∃ field ∈ rules.schema.fields, field.name = key) ∧ key ∉ rules.readOnly ∧
        ∃ raw, (key, raw) ∈ payload := by
  constructor
  · rintro ⟨value, hmem⟩
    have hvalue : Entries.get? (rules.clean payload partially) key = some value :=
      ascending_clean.get?_of_mem hmem
    have hkey : key ∈ rules.schema.fields.map Field.name := by
      by_contra hnot
      rw [clean_eq_foldl, get?_foldl_of_absent hnot] at hvalue
      exact nomatch hvalue
    obtain ⟨field, hfield, rfl⟩ := List.mem_map.mp hkey
    obtain ⟨raw, hraw, _⟩ := exists_of_get?_clean hnodup hfield hvalue
    refine ⟨⟨field, hfield, rfl⟩, ?_, raw, Entries.mem_of_get? hraw⟩
    intro hreadOnly
    rw [get?_clean_of_readOnly hnodup hfield (List.contains_iff_mem.mpr hreadOnly)] at hvalue
    exact nomatch hvalue
  · rintro ⟨⟨field, hfield, rfl⟩, hwritable, raw, hmem⟩
    obtain ⟨first, hfirst⟩ := Entries.exists_get?_of_mem hmem
    have hfree : rules.readOnly.contains field.name = false :=
      eq_false_of_ne_true (mt List.contains_iff_mem.mp hwritable)
    obtain ⟨value, _, hvalue⟩ :=
      exists_of_given hnodup hfield hfree (passes_of_isEmpty_errors h hfield) hfirst
    exact ⟨value, Entries.mem_of_get? hvalue⟩

end Nodup

/-- Whatever fields a schema has been given, and whichever names are required, read-only or
nullable: a payload that has been cleaned passes again and is not changed. It holds the declared
fields of the payload that are not read-only, and nothing else. -/
theorem validate_idempotent {name : String} {steps : List Schema.Step}
    {required readOnly nullable : List String} {payload clean : Json} {partially : Bool}
    (h : validate ⟨.build name steps, required, readOnly, nullable⟩ payload partially = .ok clean) :
    validate ⟨.build name steps, required, readOnly, nullable⟩ clean partially = .ok clean ∧
      ∃ given kept : Entries, payload = .object given ∧ clean = .object kept ∧
        ∀ key, (∃ value, (key, value) ∈ kept) ↔
          (∃ field ∈ (Schema.build name steps).fields, field.name = key) ∧ key ∉ readOnly ∧
            ∃ raw, (key, raw) ∈ given := by
  have hnodup := Schema.nodup_build name steps
  obtain ⟨given, rfl, hempty, rfl⟩ := exists_of_validate h
  refine ⟨validate_clean hnodup hempty, given, _, rfl, rfl, ?_⟩
  intro key
  exact exists_mem_clean_iff hnodup hempty

/-- Rules that overlap, and values that are converted: the number of the title becomes a text, the
blanks around the weight go, and the count is not taken although it is required. -/
theorem validate_idempotent_of_converted_values :
    let rules : FieldRules :=
      ⟨.build "Part" [.field "title" .text, .field "count" .integer, .field "weight" .decimal,
        .field "active" .boolean, .field "owner" (.relation "Person")],
        ["title", "count"], ["count", "maker"], ["owner", "title"]⟩
    let payload : Json := .object [("active", .string "Yes"), ("colour", .ofInt 3),
      ("count", .bool true), ("owner", .null), ("title", .ofInt 15), ("weight", .string " 1.50 ")]
    let clean : Json := .object [("active", .bool true), ("owner", .null),
      ("title", .string "15"), ("weight", .string "1.50")]
    rules.validate payload false = .ok clean ∧ rules.validate clean false = .ok clean := by
  intro rules payload clean
  have hclean : rules.validate payload false = .ok clean := by rfl
  exact ⟨hclean, (validate_idempotent hclean).1⟩

end FieldRules

end RecordQuery
