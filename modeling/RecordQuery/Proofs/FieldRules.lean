import Mathlib.Data.List.Basic
import RecordQuery.FieldRules
import RecordQuery.Proofs.Json.Entries

/-!
# Payloads that pass

When there are no complaints, every field that is checked passed its check, and the clean payload
holds under each name what the check of that field made of it.
-/

namespace RecordQuery

theorem FieldErrors.isEmpty_add (errors : FieldErrors) (field message : String) :
    (errors.add field message).isEmpty = false := by
  obtain ⟨entries⟩ := errors
  cases entries with
  | nil => rfl
  | cons entry rest =>
    simp only [add, addTo, isEmpty]
    split
    · rfl
    · split <;> rfl

/-- The text that a value stands for in a field of text. -/
def Json.asText? : Json → Option String
  | string s => some s
  | number n => some n.text
  | _ => none

/-- The values that a clean payload can hold in a field of each type, null apart. -/
inductive FieldType.Holds : FieldType → Json → Prop where
  | text (s : String) : Holds .text (.string s)
  | integer (n : Int) (lower : -0x8000000000000000 ≤ n) (upper : n < 0x10000000000000000) :
      Holds .integer (.number (.integer n lower upper))
  | float (n : JsonNumber) : Holds .float (.number n)
  | decimal (n : JsonNumber) : Holds .decimal (.number n)
  | decimalText (s : String) : Holds .decimal (.string s)
  | datetime (s : String) : Holds .datetime (.string s)
  | boolean (b : Bool) : Holds .boolean (.bool b)
  | key (target : String) (n : Int) (lower : -0x8000000000000000 ≤ n)
      (upper : n < 0x10000000000000000) :
      Holds (.relation target) (.number (.integer n lower upper))
  | keyText (target s : String) : Holds (.relation target) (.string s)
  | nested (target : String) (entries : Entries) : Holds (.relation target) (.object entries)

namespace FieldRules

variable {rules : FieldRules} {payload : Entries} {partially : Bool}

/-- The field is left alone or passes its check. -/
def Passes (rules : FieldRules) (payload : Entries) (partially : Bool) (field : Field) : Prop :=
  ∀ message, rules.checkField payload partially field ≠ some (.error message)

/-! ## Complaints -/

def complain (rules : FieldRules) (payload : Entries) (partially : Bool) (errors : FieldErrors)
    (field : Field) : FieldErrors :=
  match rules.checkField payload partially field with
  | some (.error message) => errors.add field.name message
  | _ => errors

theorem passes_of_isEmpty_complain {errors : FieldErrors} {field : Field}
    (h : (rules.complain payload partially errors field).isEmpty = true) :
    errors.isEmpty = true ∧ rules.Passes payload partially field := by
  unfold complain at h
  split at h
  · rw [FieldErrors.isEmpty_add] at h
    exact absurd h (by simp)
  · rename_i hpasses
    exact ⟨h, hpasses⟩

/-- Complaints only ever become more, so that there are none at the end only if no field adds
one. -/
theorem passes_of_isEmpty_foldl {fields : List Field} {start : FieldErrors}
    (h : (fields.foldl (rules.complain payload partially) start).isEmpty = true) :
    start.isEmpty = true ∧ ∀ field ∈ fields, rules.Passes payload partially field := by
  induction fields generalizing start with
  | nil => exact ⟨h, fun field hfield => absurd hfield List.not_mem_nil⟩
  | cons first rest ih =>
    obtain ⟨hnext, hrest⟩ := ih h
    obtain ⟨hstart, hfirst⟩ := passes_of_isEmpty_complain hnext
    exact ⟨hstart, List.forall_mem_cons.mpr ⟨hfirst, hrest⟩⟩

theorem passes_of_isEmpty_errors (h : (rules.errors payload partially).isEmpty = true)
    {field : Field} (hfield : field ∈ rules.schema.fields) :
    rules.Passes payload partially field := by
  have hfold : rules.errors payload partially =
      rules.schema.fields.foldl (rules.complain payload partially) .empty := rfl
  rw [hfold] at h
  exact (passes_of_isEmpty_foldl h).2 field hfield

/-! ## The clean payload -/

def keep (rules : FieldRules) (payload : Entries) (partially : Bool) (clean : Entries)
    (field : Field) : Entries :=
  match rules.checkField payload partially field with
  | some (.ok value) => Entries.insert field.name value clean
  | _ => clean

theorem clean_eq_foldl : rules.clean payload partially =
    rules.schema.fields.foldl (rules.keep payload partially) [] := rfl

theorem ascending_keep {clean : Entries} (h : clean.Ascending) (field : Field) :
    (rules.keep payload partially clean field).Ascending := by
  unfold keep
  split
  · exact h.insert _ _
  · exact h

theorem ascending_clean : (rules.clean payload partially).Ascending := by
  rw [clean_eq_foldl]
  apply List.foldlRecOn
  · exact List.Pairwise.nil
  · intro clean h field _
    exact ascending_keep h field

theorem get?_keep (clean : Entries) (field : Field) (name : String) :
    Entries.get? (rules.keep payload partially clean field) name =
      if name = field.name then
        ((rules.checkField payload partially field).bind Except.toOption).or
          (Entries.get? clean name)
      else Entries.get? clean name := by
  unfold keep
  cases rules.checkField payload partially field with
  | none => simp
  | some checked =>
    cases checked with
    | error message => simp [Except.toOption]
    | ok value => simp [Except.toOption, Entries.get?_insert]

theorem get?_foldl_of_absent {fields : List Field} {name : String}
    (h : name ∉ fields.map Field.name) (start : Entries) :
    Entries.get? (fields.foldl (rules.keep payload partially) start) name =
      Entries.get? start name := by
  induction fields generalizing start with
  | nil => rfl
  | cons first rest ih =>
    obtain ⟨hfirst, hrest⟩ := not_or.mp (mt List.mem_cons.mpr h)
    rw [List.foldl_cons, ih hrest, get?_keep, if_neg hfirst]

theorem get?_foldl_of_mem {fields : List Field} (hnodup : (fields.map Field.name).Nodup)
    {field : Field} (hfield : field ∈ fields) {start : Entries}
    (hstart : Entries.get? start field.name = none) :
    Entries.get? (fields.foldl (rules.keep payload partially) start) field.name =
      (rules.checkField payload partially field).bind Except.toOption := by
  induction fields generalizing start with
  | nil => exact absurd hfield List.not_mem_nil
  | cons first rest ih =>
    obtain ⟨hfirst, hrest⟩ := List.nodup_cons.mp hnodup
    rw [List.foldl_cons]
    rcases List.mem_cons.mp hfield with rfl | hfield
    · rw [get?_foldl_of_absent hfirst, get?_keep, if_pos rfl, hstart, Option.or_none]
    · have hne : field.name ≠ first.name := by
        intro heq
        exact hfirst (heq ▸ List.mem_map_of_mem hfield)
      apply ih hrest hfield
      rw [get?_keep, if_neg hne, hstart]

/-- The clean payload holds under the name of a field what its check made of it. -/
theorem get?_clean (hnodup : (rules.schema.fields.map Field.name).Nodup) {field : Field}
    (hfield : field ∈ rules.schema.fields) :
    Entries.get? (rules.clean payload partially) field.name =
      (rules.checkField payload partially field).bind Except.toOption := by
  rw [clean_eq_foldl]
  exact get?_foldl_of_mem hnodup hfield rfl

theorem get?_clean_of_readOnly (hnodup : (rules.schema.fields.map Field.name).Nodup)
    {field : Field} (hfield : field ∈ rules.schema.fields)
    (hreadOnly : rules.readOnly.contains field.name = true) :
    Entries.get? (rules.clean payload partially) field.name = none := by
  rw [get?_clean hnodup hfield, checkField, hreadOnly]
  rfl

/-- A clean value is what the check of its field made of the value in the payload. -/
theorem exists_of_get?_clean (hnodup : (rules.schema.fields.map Field.name).Nodup) {field : Field}
    (hfield : field ∈ rules.schema.fields) {value : Json}
    (h : Entries.get? (rules.clean payload partially) field.name = some value) :
    ∃ raw, Entries.get? payload field.name = some raw ∧ rules.check field raw = .ok value := by
  rw [get?_clean hnodup hfield] at h
  obtain ⟨checked, hchecked, hvalue⟩ := Option.bind_eq_some_iff.mp h
  have hok : checked = .ok value := by
    cases checked with
    | error message => exact nomatch hvalue
    | ok held => exact congrArg Except.ok (Option.some.inj hvalue)
  subst hok
  unfold checkField at hchecked
  split at hchecked
  · exact absurd hchecked (by simp)
  · split at hchecked
    · rename_i raw hraw
      exact ⟨raw, hraw, Option.some.inj hchecked⟩
    · split at hchecked
      · exact nomatch hchecked
      · exact nomatch hchecked

theorem get?_clean_of_absent (hnodup : (rules.schema.fields.map Field.name).Nodup) {field : Field}
    (hfield : field ∈ rules.schema.fields) (hraw : Entries.get? payload field.name = none) :
    Entries.get? (rules.clean payload partially) field.name = none := by
  rw [get?_clean hnodup hfield, checkField, hraw]
  split
  · rfl
  · dsimp only
    split <;> rfl

/-- A field that is given and passes stands in the clean payload as its check made it. -/
theorem exists_of_given (hnodup : (rules.schema.fields.map Field.name).Nodup) {field : Field}
    (hfield : field ∈ rules.schema.fields) (hwritable : rules.readOnly.contains field.name = false)
    (hpasses : rules.Passes payload partially field) {raw : Json}
    (hraw : Entries.get? payload field.name = some raw) :
    ∃ value, rules.check field raw = .ok value ∧
      Entries.get? (rules.clean payload partially) field.name = some value := by
  have hchecked : rules.checkField payload partially field = some (rules.check field raw) := by
    rw [checkField, hwritable, hraw]
    rfl
  cases hcheck : rules.check field raw with
  | error message => exact absurd (hchecked.trans (congrArg some hcheck)) (hpasses message)
  | ok value =>
    refine ⟨value, rfl, ?_⟩
    rw [get?_clean hnodup hfield, hchecked, hcheck]
    rfl

theorem isSome_get?_clean (hnodup : (rules.schema.fields.map Field.name).Nodup) {field : Field}
    (hfield : field ∈ rules.schema.fields) (hwritable : rules.readOnly.contains field.name = false)
    (hrequired : rules.required.contains field.name = true)
    (hpasses : rules.Passes payload false field) :
    (Entries.get? (rules.clean payload false) field.name).isSome = true := by
  cases hraw : Entries.get? payload field.name with
  | none =>
    have hmissing : rules.checkField payload false field =
        some (.error "This field is required.") := by
      rw [checkField, hwritable, hraw, hrequired]
      rfl
    exact absurd hmissing (hpasses _)
  | some raw =>
    obtain ⟨value, _, hvalue⟩ := exists_of_given hnodup hfield hwritable hpasses hraw
    rw [hvalue]
    rfl

/-! ## Validation -/

theorem exists_of_validate {payload clean : Json}
    (h : rules.validate payload partially = .ok clean) :
    ∃ given : Entries, payload = .object given ∧ (rules.errors given partially).isEmpty = true ∧
      clean = .object (rules.clean given partially) := by
  cases payload with
  | object given =>
    unfold validate at h
    dsimp only at h
    split at h
    · rename_i hempty
      exact ⟨given, rfl, hempty, (Except.ok.inj h).symm⟩
    · exact nomatch h
  | _ => exact nomatch h

theorem validate_of_isEmpty (h : (rules.errors payload partially).isEmpty = true) :
    rules.validate (.object payload) partially = .ok (.object (rules.clean payload partially)) :=
  if_pos h

section Alike

variable {other : Entries} {lenient : Bool}
variable (h : ∀ field ∈ rules.schema.fields,
  rules.checkField payload partially field = rules.checkField other lenient field)
include h

theorem errors_congr : rules.errors payload partially = rules.errors other lenient := by
  apply List.foldl_ext
  intro errors field hfield
  rw [h field hfield]

theorem clean_congr : rules.clean payload partially = rules.clean other lenient := by
  apply List.foldl_ext
  intro clean field hfield
  rw [h field hfield]

end Alike

/-! ## Checks by type -/

/-- The check of a value other than null. -/
def checkAs (required : Bool) : FieldType → Json → Except String Json
  | .text => checkText required
  | .integer => checkInteger
  | .float => checkFloat
  | .decimal => checkDecimal
  | .datetime => checkDatetime
  | .boolean => checkBoolean
  | .relation _ => checkRelation

theorem check_of_not_isNull {field : Field} {value : Json} (hnull : value.isNull = false) :
    rules.check field value =
      checkAs (rules.required.contains field.name) field.type value := by
  simp only [check, hnull, Bool.false_eq_true, if_false]
  cases field.type <;> rfl

/-! ## Fields of text -/

theorem check_text {field : Field} (htext : field.type = .text) {value : Json}
    (hnull : value.isNull = false) :
    rules.check field value = checkText (rules.required.contains field.name) value := by
  rw [check_of_not_isNull hnull, htext, checkAs]

/-- The text that a field of text accepts is the text that the value stands for. -/
theorem eq_string_of_checkText {required : Bool} {value : Json}
    (h : ∀ message, checkText required value ≠ .error message) :
    ∃ s, value.asText? = some s ∧ checkText required value = .ok (.string s) := by
  cases value with
  | string s =>
    have hcheck := h
    unfold checkText at hcheck ⊢
    dsimp only at hcheck ⊢
    split at hcheck
    · exact absurd rfl (hcheck _)
    · rename_i hfine
      exact ⟨s, rfl, if_neg hfine⟩
  | number n => exact ⟨n.text, rfl, rfl⟩
  | _ => exact absurd rfl (h _)

section Text

variable {field : Field} (htext : field.type = .text)
variable (hwritable : rules.readOnly.contains field.name = false)
variable (hnull : rules.nullable.contains field.name = false)
variable (hpasses : rules.Passes payload partially field)
include htext hwritable hnull hpasses

/-- A field of text that passes is either left out, where that is allowed, or becomes the text that
its value stands for. -/
theorem checkField_text :
    (Entries.get? payload field.name = none ∧
      rules.checkField payload partially field = none ∧
      (partially = true ∨ rules.required.contains field.name = false)) ∨
    ∃ s, (Entries.get? payload field.name).bind Json.asText? = some s ∧
      rules.checkField payload partially field = some (.ok (.string s)) := by
  unfold Passes at hpasses
  simp only [checkField, hwritable, Bool.false_eq_true, if_false] at hpasses ⊢
  cases hvalue : Entries.get? payload field.name with
  | none =>
    rw [hvalue] at hpasses
    dsimp only at hpasses ⊢
    split at hpasses
    · exact absurd rfl (hpasses _)
    · rename_i hmay
      refine Or.inl ⟨rfl, if_neg hmay, ?_⟩
      cases partially <;> simp_all
  | some value =>
    rw [hvalue] at hpasses
    dsimp only at hpasses ⊢
    cases hvalueNull : value.isNull with
    | true =>
      simp only [check, hvalueNull, hnull] at hpasses
      exact absurd rfl (hpasses _)
    | false =>
      rw [check_text htext hvalueNull] at hpasses ⊢
      obtain ⟨s, hs, hcheck⟩ := eq_string_of_checkText fun message heq =>
        hpasses message (congrArg some heq)
      exact Or.inr ⟨s, hs, congrArg some hcheck⟩

end Text

/-! ## The kind of a clean value -/

section Kind

variable {raw value : Json}

theorem holds_of_checkText {required : Bool} (h : checkText required raw = .ok value) :
    FieldType.text.Holds value := by
  unfold checkText at h
  split at h
  · split at h
    · exact nomatch h
    · obtain rfl := Except.ok.inj h
      exact .text _
  · obtain rfl := Except.ok.inj h
    exact .text _
  · exact nomatch h

theorem eq_or_of_checkInteger (h : checkInteger raw = .ok value) :
    (value = raw ∧ ∃ n lower upper, raw = .number (.integer n lower upper)) ∨
      ∃ n, value = .number (.ofInt64 n) := by
  unfold checkInteger at h
  split at h
  · exact Or.inl ⟨(Except.ok.inj h).symm, _, _, _, rfl⟩
  · split at h
    · exact Or.inr ⟨_, (Except.ok.inj h).symm⟩
    · exact nomatch h
  · exact nomatch h

theorem holds_of_checkInteger (h : checkInteger raw = .ok value) :
    FieldType.integer.Holds value := by
  rcases eq_or_of_checkInteger h with ⟨rfl, n, lower, upper, rfl⟩ | ⟨n, rfl⟩
  · exact .integer n lower upper
  · exact .integer _ _ _

theorem holds_of_checkFloat (h : checkFloat raw = .ok value) : FieldType.float.Holds value := by
  unfold checkFloat at h
  split at h
  · obtain rfl := Except.ok.inj h
    exact .float _
  · split at h
    · obtain rfl := Except.ok.inj h
      exact .float _
    · exact nomatch h
  · exact nomatch h

theorem holds_of_checkDecimal (h : checkDecimal raw = .ok value) :
    FieldType.decimal.Holds value := by
  unfold checkDecimal at h
  split at h
  · obtain rfl := Except.ok.inj h
    exact .decimal _
  · split at h
    · obtain rfl := Except.ok.inj h
      exact .decimalText _
    · exact nomatch h
  · exact nomatch h

theorem holds_of_checkDatetime (h : checkDatetime raw = .ok value) :
    FieldType.datetime.Holds value := by
  unfold checkDatetime at h
  split at h
  · split at h
    · exact nomatch h
    · obtain rfl := Except.ok.inj h
      exact .datetime _
  · exact nomatch h

theorem holds_of_checkBoolean (h : checkBoolean raw = .ok value) :
    FieldType.boolean.Holds value := by
  unfold checkBoolean at h
  split at h
  · obtain rfl := Except.ok.inj h
    exact .boolean _
  · split at h
    · obtain rfl := Except.ok.inj h
      exact .boolean _
    · split at h
      · obtain rfl := Except.ok.inj h
        exact .boolean _
      · exact nomatch h
  · split at h
    · obtain rfl := Except.ok.inj h
      exact .boolean _
    · exact nomatch h
  · exact nomatch h

theorem eq_of_checkRelation (h : checkRelation raw = .ok value) : value = raw := by
  unfold checkRelation at h
  split at h
  · exact (Except.ok.inj h).symm
  · split at h
    · exact nomatch h
    · exact (Except.ok.inj h).symm
  · exact (Except.ok.inj h).symm
  · exact nomatch h

theorem holds_of_checkRelation (target : String) (h : checkRelation raw = .ok value) :
    (FieldType.relation target).Holds value := by
  obtain rfl := eq_of_checkRelation h
  unfold checkRelation at h
  split at h
  · exact .key target _ _ _
  · exact .keyText target _
  · exact .nested target _
  · exact nomatch h

theorem holds_of_checkAs {required : Bool} {type : FieldType}
    (h : checkAs required type raw = .ok value) : type.Holds value := by
  cases type with
  | text => exact holds_of_checkText h
  | integer => exact holds_of_checkInteger h
  | float => exact holds_of_checkFloat h
  | decimal => exact holds_of_checkDecimal h
  | datetime => exact holds_of_checkDatetime h
  | boolean => exact holds_of_checkBoolean h
  | relation target => exact holds_of_checkRelation target h

variable {field : Field}

theorem check_of_isNull (h : rules.check field raw = .ok value) (hnull : raw.isNull = true) :
    value = .null ∧ rules.nullable.contains field.name = true := by
  rw [check, if_pos hnull] at h
  split at h
  · rename_i hnullable
    exact ⟨(Except.ok.inj h).symm, hnullable⟩
  · exact nomatch h

/-- A check lets through null, where that is allowed, or a value of the kind of the field. -/
theorem holds_of_check (h : rules.check field raw = .ok value) :
    (value = .null ∧ rules.nullable.contains field.name = true) ∨ field.type.Holds value := by
  cases hnull : raw.isNull with
  | true => exact Or.inl (check_of_isNull h hnull)
  | false =>
    rw [check_of_not_isNull hnull] at h
    exact Or.inr (holds_of_checkAs h)

theorem eq_of_check_relation {target : String} (htype : field.type = .relation target)
    (h : rules.check field raw = .ok value) : value = raw := by
  cases hnull : raw.isNull with
  | true =>
    obtain ⟨rfl, _⟩ := check_of_isNull h hnull
    cases raw with
    | null => rfl
    | _ => exact nomatch hnull
  | false =>
    rw [check_of_not_isNull hnull, htype] at h
    exact eq_of_checkRelation h

/-- The key or the record that a relation is given stands in the clean payload as it was given. -/
theorem get?_clean_relation (hnodup : (rules.schema.fields.map Field.name).Nodup)
    (hfield : field ∈ rules.schema.fields) {target : String} (htype : field.type = .relation target)
    (hwritable : rules.readOnly.contains field.name = false)
    (hpasses : rules.Passes payload partially field) :
    Entries.get? (rules.clean payload partially) field.name =
      Entries.get? payload field.name := by
  cases hraw : Entries.get? payload field.name with
  | none => exact get?_clean_of_absent hnodup hfield hraw
  | some raw =>
    obtain ⟨value, hcheck, hvalue⟩ := exists_of_given hnodup hfield hwritable hpasses hraw
    rw [hvalue, eq_of_check_relation htype hcheck]

end Kind

end FieldRules

end RecordQuery
