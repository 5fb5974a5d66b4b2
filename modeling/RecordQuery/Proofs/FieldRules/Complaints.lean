import RecordQuery.Proofs.FieldErrors
import RecordQuery.Proofs.FieldRules
import RecordQuery.Proofs.Schema

/-!
# Complaints field by field

A validation complains about each field on its own. What it says about a field depends on the value
of that field and nothing else, and a whole payload is told the complaints about a partial one and
the fields that it lacks.
-/

namespace RecordQuery.FieldRules

variable {rules : FieldRules} {payload other : Entries} {partially : Bool} {field : Field}

/-- The complaints about a payload; none when it passes. -/
def complaints (rules : FieldRules) (payload : Json) (partially : Bool) : FieldErrors :=
  match rules.validate payload partially with
  | .ok _ => .empty
  | .error errors => errors

/-- The payload leaves the field out, although it is required and taken from payloads. -/
def lacks (rules : FieldRules) (payload : Entries) (field : Field) : Bool :=
  rules.required.contains field.name && !rules.readOnly.contains field.name &&
    (Entries.get? payload field.name).isNone

/-- The declared fields that a payload lacks, each with what a validation says about it. -/
def lacking (rules : FieldRules) (payload : Entries) : List (String × List String) :=
  (rules.schema.fields.filter (rules.lacks payload)).map fun field =>
    (field.name, ["This field is required."])

/-- The complaint about a field, if there is one. -/
def complaint? (rules : FieldRules) (payload : Entries) (partially : Bool) (field : Field) :
    Option (String × List String) :=
  match rules.checkField payload partially field with
  | some (.error message) => some (field.name, [message])
  | _ => none

theorem complaints_object :
    rules.complaints (.object payload) partially = rules.errors payload partially := by
  unfold complaints validate
  dsimp only
  cases hempty : (rules.errors payload partially).isEmpty with
  | true => exact (FieldErrors.eq_empty_of_isEmpty hempty).symm
  | false => rfl

/-! ## All complaints -/

theorem ascending_errors : (rules.errors payload partially).Ascending := by
  apply List.foldlRecOn (motive := FieldErrors.Ascending)
  · exact List.Pairwise.nil
  · intro errors h field _
    split
    · exact h.add _ _
    · exact h

theorem perm_complain {errors : FieldErrors} (hnew : field.name ∉ errors.entries.map Prod.fst) :
    (rules.complain payload partially errors field).entries.Perm
      ((rules.complaint? payload partially field).toList ++ errors.entries) := by
  unfold complain complaint?
  cases rules.checkField payload partially field with
  | none => exact List.Perm.refl _
  | some checked =>
    cases checked with
    | error message => exact FieldErrors.perm_addTo hnew
    | ok value => exact List.Perm.refl _

theorem name_of_complaint? {entry : String × List String}
    (h : rules.complaint? payload partially field = some entry) : entry.1 = field.name := by
  unfold complaint? at h
  split at h
  · exact (congrArg Prod.fst (Option.some.inj h)).symm
  · exact nomatch h

theorem not_mem_complain {errors : FieldErrors} {name : String}
    (hnew : field.name ∉ errors.entries.map Prod.fst)
    (hname : name ∉ errors.entries.map Prod.fst) (hne : field.name ≠ name) :
    name ∉ (rules.complain payload partially errors field).entries.map Prod.fst := by
  intro hmem
  obtain ⟨entry, hentry, rfl⟩ := List.mem_map.mp hmem
  rcases List.mem_append.mp ((perm_complain hnew).mem_iff.mp hentry) with hcomplaint | hentry
  · exact hne (name_of_complaint? (Option.mem_toList.mp hcomplaint)).symm
  · exact hname (List.mem_map_of_mem hentry)

/-- The induction is on the fields still to be checked: none of them has been complained about, as
their names differ from each other and from those that went before. -/
theorem perm_foldl {fields : List Field} (hnodup : (fields.map Field.name).Nodup)
    {start : FieldErrors} (hnew : ∀ field ∈ fields, field.name ∉ start.entries.map Prod.fst) :
    (fields.foldl (rules.complain payload partially) start).entries.Perm
      (fields.filterMap (rules.complaint? payload partially) ++ start.entries) := by
  induction fields generalizing start with
  | nil => exact List.Perm.refl _
  | cons first rest ih =>
    obtain ⟨hfirst, hrest⟩ := List.nodup_cons.mp hnodup
    have hstep : (rules.complain payload partially start first).entries.Perm
        ((rules.complaint? payload partially first).toList ++ start.entries) :=
      perm_complain (hnew first List.mem_cons_self)
    have hnext : ∀ field ∈ rest,
        field.name ∉ (rules.complain payload partially start first).entries.map Prod.fst := by
      intro field hfield
      apply not_mem_complain (hnew first List.mem_cons_self)
        (hnew field (List.mem_cons_of_mem _ hfield))
      intro heq
      exact hfirst (heq ▸ List.mem_map_of_mem hfield)
    rw [List.foldl_cons]
    apply (ih hrest hnext).trans
    apply (hstep.append_left _).trans
    cases hcomplaint : rules.complaint? payload partially first with
    | none =>
      rw [List.filterMap_cons_none hcomplaint]
      exact List.Perm.refl _
    | some entry =>
      rw [List.filterMap_cons_some hcomplaint]
      exact List.perm_middle

section Nodup

variable (hnodup : (rules.schema.fields.map Field.name).Nodup)
include hnodup

theorem perm_errors : (rules.errors payload partially).entries.Perm
    (rules.schema.fields.filterMap (rules.complaint? payload partially)) := by
  have hnew : ∀ field ∈ rules.schema.fields,
      field.name ∉ FieldErrors.empty.entries.map Prod.fst := fun _ _ => List.not_mem_nil
  exact (perm_foldl hnodup hnew).trans (List.Perm.of_eq (List.append_nil _))

theorem get?_complaints_eq_some_iff {name : String} {messages : List String} :
    (rules.complaints (.object payload) partially).get? name = some messages ↔
      ∃ field ∈ rules.schema.fields,
        rules.complaint? payload partially field = some (name, messages) := by
  rw [complaints_object, ascending_errors.get?_eq_some_iff, (perm_errors hnodup).mem_iff]
  exact List.mem_filterMap

end Nodup

/-! ## Whole and partial payloads -/

theorem checkField_of_lacks (h : rules.lacks payload field = true) :
    rules.checkField payload false field = some (.error "This field is required.") ∧
      rules.checkField payload true field = none := by
  simp only [lacks, Bool.and_eq_true, Bool.not_eq_true', Option.isNone_iff_eq_none] at h
  obtain ⟨⟨hrequired, hwritable⟩, habsent⟩ := h
  unfold checkField
  rw [hwritable, habsent, hrequired]
  exact ⟨rfl, rfl⟩

/-- A field that is not missing comes to the same in a whole payload and in a partial one. -/
theorem checkField_of_not_lacks (h : rules.lacks payload field = false) :
    rules.checkField payload false field = rules.checkField payload true field := by
  unfold lacks at h
  unfold checkField
  cases hreadOnly : rules.readOnly.contains field.name with
  | true => rfl
  | false =>
    cases hraw : Entries.get? payload field.name with
    | some raw => rfl
    | none =>
      rw [hreadOnly, hraw] at h
      cases hrequired : rules.required.contains field.name with
      | false => rfl
      | true =>
        rw [hrequired] at h
        exact nomatch h

theorem perm_filterMap_complaint? (fields : List Field) :
    (fields.filterMap (rules.complaint? payload false)).Perm
      (fields.filterMap (rules.complaint? payload true) ++
        (fields.filter (rules.lacks payload)).map fun field =>
          (field.name, ["This field is required."])) := by
  induction fields with
  | nil => exact List.Perm.refl _
  | cons first rest ih =>
    cases hlacks : rules.lacks payload first with
    | true =>
      obtain ⟨hwhole, hpartial⟩ := checkField_of_lacks hlacks
      have hcomplaint : rules.complaint? payload false first =
          some (first.name, ["This field is required."]) := by
        rw [complaint?, hwhole]
      have hnone : rules.complaint? payload true first = none := by
        rw [complaint?, hpartial]
      rw [List.filterMap_cons_some hcomplaint, List.filterMap_cons_none hnone,
        List.filter_cons_of_pos hlacks, List.map_cons]
      exact (ih.cons _).trans List.perm_middle.symm
    | false =>
      have hsame : rules.complaint? payload false first = rules.complaint? payload true first := by
        rw [complaint?, complaint?, checkField_of_not_lacks hlacks]
      rw [List.filter_cons_of_neg (ne_true_of_eq_false hlacks)]
      cases hcomplaint : rules.complaint? payload true first with
      | none =>
        rw [List.filterMap_cons_none (hsame.trans hcomplaint),
          List.filterMap_cons_none hcomplaint]
        exact ih
      | some entry =>
        rw [List.filterMap_cons_some (hsame.trans hcomplaint),
          List.filterMap_cons_some hcomplaint]
        exact ih.cons _

section Nodup

variable (hnodup : (rules.schema.fields.map Field.name).Nodup)
include hnodup

theorem perm_complaints :
    (rules.complaints (.object payload) false).entries.Perm
      ((rules.complaints (.object payload) true).entries ++ rules.lacking payload) := by
  rw [complaints_object, complaints_object]
  exact ((perm_errors hnodup).trans (perm_filterMap_complaint? _)).trans
    ((perm_errors hnodup).symm.append_right _)

end Nodup

/-- Nothing is lacking in a payload that passes as a whole. -/
theorem lacks_of_isEmpty_errors (h : (rules.errors payload false).isEmpty = true)
    (hfield : field ∈ rules.schema.fields) : rules.lacks payload field = false := by
  cases hlacks : rules.lacks payload field with
  | false => rfl
  | true => exact absurd (checkField_of_lacks hlacks).1 (passes_of_isEmpty_errors h hfield _)

theorem validate_partially {clean : Json}
    (h : rules.validate (.object payload) false = .ok clean) :
    rules.validate (.object payload) true = .ok clean := by
  obtain ⟨given, hgiven, hempty, rfl⟩ := exists_of_validate h
  obtain rfl := Json.object.inj hgiven
  have halike : ∀ field ∈ rules.schema.fields,
      rules.checkField payload false field = rules.checkField payload true field :=
    fun _ hfield => checkField_of_not_lacks (lacks_of_isEmpty_errors hempty hfield)
  rw [errors_congr halike] at hempty
  rw [validate_of_isEmpty hempty, clean_congr halike]

/-! ## Payloads that agree on a field -/

theorem checkField_of_get?_eq
    (hsame : Entries.get? payload field.name = Entries.get? other field.name) :
    rules.checkField payload partially field = rules.checkField other partially field := by
  rw [checkField, checkField, hsame]

section Agreeing

variable {name : String} (hsame : Entries.get? payload name = Entries.get? other name)
include hsame

theorem complaint?_of_get?_eq {messages : List String}
    (h : rules.complaint? payload partially field = some (name, messages)) :
    rules.complaint? other partially field = some (name, messages) := by
  obtain rfl : name = field.name := name_of_complaint? h
  rw [complaint?, ← checkField_of_get?_eq hsame]
  exact h

variable (hnodup : (rules.schema.fields.map Field.name).Nodup)
include hnodup

theorem get?_complaints_of_get?_eq :
    (rules.complaints (.object payload) partially).get? name =
      (rules.complaints (.object other) partially).get? name := by
  apply Option.ext
  intro messages
  rw [get?_complaints_eq_some_iff hnodup, get?_complaints_eq_some_iff hnodup]
  constructor
  · rintro ⟨field, hfield, h⟩
    exact ⟨field, hfield, complaint?_of_get?_eq hsame h⟩
  · rintro ⟨field, hfield, h⟩
    exact ⟨field, hfield, complaint?_of_get?_eq hsame.symm h⟩

theorem get?_clean_of_get?_eq :
    Entries.get? (rules.clean payload partially) name =
      Entries.get? (rules.clean other partially) name := by
  by_cases hname : name ∈ rules.schema.fields.map Field.name
  · obtain ⟨field, hfield, rfl⟩ := List.mem_map.mp hname
    rw [get?_clean hnodup hfield, get?_clean hnodup hfield, checkField_of_get?_eq hsame]
  · rw [clean_eq_foldl, clean_eq_foldl, get?_foldl_of_absent hname, get?_foldl_of_absent hname]

end Agreeing

/-- Whatever fields a schema has been given, and whichever names are required, read-only or
nullable: the complaints about a whole payload are those about it as a partial one and one for each
field that it lacks, each name once; where there are none, both ways lead to the same clean payload.
Two payloads that agree on a field are told the same about it and become clean with the same value
in it. -/
theorem complaints_field_by_field (name : String) (steps : List Schema.Step)
    (required readOnly nullable : List String) :
    let rules : FieldRules := ⟨.build name steps, required, readOnly, nullable⟩
    (∀ payload : Entries,
      (rules.complaints (.object payload) false).Ascending ∧
      (rules.complaints (.object payload) false).entries.Perm
        ((rules.complaints (.object payload) true).entries ++ rules.lacking payload) ∧
      ∀ clean, rules.validate (.object payload) false = .ok clean →
        rules.validate (.object payload) true = .ok clean) ∧
    ∀ (payload other : Entries) (partially : Bool) (key : String),
      Entries.get? payload key = Entries.get? other key →
      (rules.complaints (.object payload) partially).get? key =
        (rules.complaints (.object other) partially).get? key ∧
      ∀ clean clean', rules.validate (.object payload) partially = .ok clean →
        rules.validate (.object other) partially = .ok clean' →
          clean.get? key = clean'.get? key := by
  intro rules
  have hnodup : (rules.schema.fields.map Field.name).Nodup := Schema.nodup_build name steps
  refine ⟨?whole, ?agreeing⟩
  case whole =>
    intro payload
    refine ⟨?_, perm_complaints hnodup, fun _ => validate_partially⟩
    rw [complaints_object]
    exact ascending_errors
  case agreeing =>
    intro payload other partially key hsame
    refine ⟨get?_complaints_of_get?_eq hsame hnodup, ?_⟩
    intro clean clean' hclean hclean'
    obtain ⟨given, hgiven, _, rfl⟩ := exists_of_validate hclean
    obtain ⟨given', hgiven', _, rfl⟩ := exists_of_validate hclean'
    obtain rfl := Json.object.inj hgiven
    obtain rfl := Json.object.inj hgiven'
    exact get?_clean_of_get?_eq hsame hnodup

/-- A payload without a title whose count is not a number, and two payloads with one count. The
weight is not missed, as it is read-only. -/
theorem complaints_field_by_field_of_part :
    let rules : FieldRules :=
      ⟨.build "Part" [.field "title" .text, .field "count" .integer, .field "weight" .decimal],
        ["weight", "title", "count"], ["weight"], ["title"]⟩
    let wrong : Entries := [("count", .string "many"), ("weight", .bool true)]
    let first : Entries := [("count", .string " 3"), ("title", .null)]
    let second : Entries := [("colour", .ofInt 3), ("count", .string " 3"), ("title", .ofInt 1)]
    let cleanFirst : Json := .object [("count", .ofInt 3), ("title", .null)]
    let cleanSecond : Json := .object [("count", .ofInt 3), ("title", .string "1")]
    rules.lacking wrong = [("title", ["This field is required."])] ∧
      (rules.complaints (.object wrong) false).entries.Perm
        [("count", ["A valid integer is required."]), ("title", ["This field is required."])] ∧
      rules.validate (.object first) false = .ok cleanFirst ∧
      rules.validate (.object first) true = .ok cleanFirst ∧
      rules.validate (.object second) false = .ok cleanSecond ∧
      cleanFirst.get? "count" = cleanSecond.get? "count" := by
  intro rules wrong first second cleanFirst cleanSecond
  obtain ⟨hwhole, hagreeing⟩ := complaints_field_by_field "Part"
    [.field "title" .text, .field "count" .integer, .field "weight" .decimal]
    ["weight", "title", "count"] ["weight"] ["title"]
  have hfirst : rules.validate (.object first) false = .ok cleanFirst := by rfl
  have hsecond : rules.validate (.object second) false = .ok cleanSecond := by rfl
  have hpartial : (rules.complaints (.object wrong) true).entries =
      [("count", ["A valid integer is required."])] := by rfl
  obtain ⟨_, hperm, _⟩ := hwhole wrong
  obtain ⟨_, _, hboth⟩ := hwhole first
  obtain ⟨_, hvalues⟩ := hagreeing first second false "count" rfl
  rw [hpartial] at hperm
  exact ⟨rfl, hperm, hfirst, hboth _ hfirst, hsecond, hvalues _ _ hfirst hsecond⟩

end RecordQuery.FieldRules
