import RecordQuery.Filter
import RecordQuery.Proofs.FieldPath

/-!
# What becomes of a parameter

A parameter is a condition on the field that its key leads to, or is refused for the first reason
there is: an empty segment, a segment that cannot be followed, a field that is not there, a relation
at the end, and last the value.
-/

namespace RecordQuery.Filter

open FieldPath (Leads Stops)

variable {schemas : Schemas} {schema : Schema} {key value : String} {type : FieldType}
  {condition : Condition} {reason : Rejection}

theorem isMatch_of_not_isValid {filter : Filter} (h : filter.isValid = false) (record : Record) :
    filter.isMatch record = false := by
  unfold isValid at h
  unfold isMatch
  split at h
  · exact absurd h (by decide)
  · rfl

section Parse

variable [RegexLibrary]

/-- The key leads along relations to a field of this type, which is no relation, and the value is
this condition on it. -/
def Reads (schemas : Schemas) (schema : Schema) (key value : String) (type : FieldType)
    (condition : Condition) : Prop :=
  "" ∉ (FieldPath.parse key).segments ∧
    ∃ hops name reached field, (FieldPath.parse key).segments = hops ++ [name] ∧
      Leads schemas schema hops reached ∧ reached.field? name = some field ∧ field.type = type ∧
      type.isRelation = false ∧ Condition.classify type value = .ok condition

/-- The parameter is no condition, for this reason and no earlier one. -/
inductive Refused (schemas : Schemas) (schema : Schema) (key value : String) :
    Rejection → Prop where
  | emptySegment : "" ∈ (FieldPath.parse key).segments →
      Refused schemas schema key value (.emptySegment key)
  | hop {hops behind : List String} {name : String} {reached : Schema} {reason : Rejection} :
      "" ∉ (FieldPath.parse key).segments →
      (FieldPath.parse key).segments = hops ++ name :: behind → behind ≠ [] →
      Leads schemas schema hops reached → Stops reached name reason →
      Refused schemas schema key value reason
  | leaf {hops : List String} {name : String} {reached : Schema} :
      "" ∉ (FieldPath.parse key).segments → (FieldPath.parse key).segments = hops ++ [name] →
      Leads schemas schema hops reached → reached.field? name = none →
      Refused schemas schema key value (.unknownField reached.name name)
  | relationLeaf {hops : List String} {name : String} {reached : Schema} {field : Field} :
      "" ∉ (FieldPath.parse key).segments → (FieldPath.parse key).segments = hops ++ [name] →
      Leads schemas schema hops reached → reached.field? name = some field →
      field.type.isRelation = true →
      Refused schemas schema key value (.relationLeaf schema.name key)
  | value {hops : List String} {name : String} {reached : Schema} {field : Field}
      {reason : Rejection} :
      "" ∉ (FieldPath.parse key).segments → (FieldPath.parse key).segments = hops ++ [name] →
      Leads schemas schema hops reached → reached.field? name = some field →
      field.type.isRelation = false → Condition.classify field.type value = .error reason →
      Refused schemas schema key value reason

@[simp] theorem key_parse (schemas : Schemas) (schema : Schema) (key value : String) :
    (parse schemas schema key value).key = key := by
  unfold parse
  split <;> rfl

theorem resolution_of_ok
    (h : resolve schemas schema (FieldPath.parse key) value = .ok (type, condition)) :
    (parse schemas schema key value).resolution = .valid type condition := by
  rw [parse, h]

theorem resolution_of_error
    (h : resolve schemas schema (FieldPath.parse key) value = .error reason) :
    (parse schemas schema key value).resolution = .rejected reason := by
  rw [parse, h]

/-- What is read at the end of a key depends on the field there and on the value. -/
theorem resolve_of_leads {hops : List String} {name : String} {reached : Schema}
    (hfull : "" ∉ (FieldPath.parse key).segments)
    (hsegments : (FieldPath.parse key).segments = hops ++ [name])
    (hleads : Leads schemas schema hops reached) {field : Field}
    (hfield : reached.field? name = some field) :
    resolve schemas schema (FieldPath.parse key) value =
      if field.type.isRelation then .error (.relationLeaf schema.name key)
      else (Condition.classify field.type value).map fun condition => (field.type, condition) := by
  rw [resolve, FieldPath.resolve_of_segments hfull hsegments, hleads.follow, FieldPath.text_parse]
  simp only [Except.bind, hfield]

theorem Reads.resolution (h : Reads schemas schema key value type condition) :
    (parse schemas schema key value).resolution = .valid type condition := by
  obtain ⟨hfull, hops, name, reached, field, hsegments, hleads, hfield, rfl, htype, hread⟩ := h
  apply resolution_of_ok
  rw [resolve_of_leads hfull hsegments hleads hfield, if_neg (by simp [htype]), hread]
  rfl

theorem Refused.resolution (h : Refused schemas schema key value reason) :
    (parse schemas schema key value).resolution = .rejected reason := by
  apply resolution_of_error
  cases h with
  | emptySegment hempty =>
    rw [resolve, FieldPath.resolve_of_empty hempty, FieldPath.text_parse]
    rfl
  | @hop hops behind name reached _ hfull hsegments hbehind hleads hstop =>
    obtain ⟨init, last, rfl⟩ := (List.eq_nil_or_concat behind).resolve_left hbehind
    have hsplit : (FieldPath.parse key).segments = (hops ++ name :: init) ++ [last] := by
      simpa using hsegments
    rw [resolve, FieldPath.resolve_of_segments hfull hsplit, hleads.follow_of_stops hstop]
    rfl
  | leaf hfull hsegments hleads hfield =>
    rw [resolve, FieldPath.resolve_of_segments hfull hsegments, hleads.follow]
    simp only [Except.bind, hfield]
  | relationLeaf hfull hsegments hleads hfield htype =>
    rw [resolve_of_leads hfull hsegments hleads hfield, if_pos htype]
  | value hfull hsegments hleads hfield htype hread =>
    rw [resolve_of_leads hfull hsegments hleads hfield, if_neg (by simp [htype]), hread]
    rfl

theorem reads_or_refused (schemas : Schemas) (schema : Schema) (key value : String) :
    (∃ type condition, Reads schemas schema key value type condition) ∨
      ∃ reason, Refused schemas schema key value reason := by
  by_cases hempty : "" ∈ (FieldPath.parse key).segments
  · exact Or.inr ⟨_, Refused.emptySegment hempty⟩
  obtain ⟨hne, _⟩ := FieldPath.parse_segments_iff.mp (rfl : (FieldPath.parse key).segments = _)
  obtain ⟨hops, name, hsegments⟩ := (List.eq_nil_or_concat _).resolve_left hne
  rw [List.concat_eq_append] at hsegments
  rcases FieldPath.leads_or_stops schemas schema hops with ⟨reached, hleads⟩ |
    ⟨before, stop, behind, reached, reason, rfl, hleads, hstop⟩
  · cases hfield : reached.field? name with
    | none => exact Or.inr ⟨_, Refused.leaf hempty hsegments hleads hfield⟩
    | some field =>
      cases htype : field.type.isRelation with
      | true => exact Or.inr ⟨_, Refused.relationLeaf hempty hsegments hleads hfield htype⟩
      | false =>
        cases hread : Condition.classify field.type value with
        | error reason => exact Or.inr ⟨_, Refused.value hempty hsegments hleads hfield htype hread⟩
        | ok condition =>
          exact Or.inl ⟨_, condition, hempty, hops, name, reached, field, hsegments, hleads, hfield,
            rfl, htype, hread⟩
  · have hsplit : (FieldPath.parse key).segments = before ++ stop :: (behind ++ [name]) := by
      simpa using hsegments
    exact Or.inr ⟨reason, Refused.hop hempty hsplit (by simp) hleads hstop⟩

theorem resolution_eq_valid_iff :
    (parse schemas schema key value).resolution = .valid type condition ↔
      Reads schemas schema key value type condition := by
  constructor
  · intro h
    rcases reads_or_refused schemas schema key value with ⟨_, _, hreads⟩ | ⟨_, hrefused⟩
    · obtain ⟨rfl, rfl⟩ := Resolution.valid.inj (h.symm.trans hreads.resolution)
      exact hreads
    · exact absurd (h.symm.trans hrefused.resolution) (by simp)
  · exact Reads.resolution

theorem resolution_eq_rejected_iff :
    (parse schemas schema key value).resolution = .rejected reason ↔
      Refused schemas schema key value reason := by
  constructor
  · intro h
    rcases reads_or_refused schemas schema key value with ⟨_, _, hreads⟩ | ⟨_, hrefused⟩
    · exact absurd (h.symm.trans hreads.resolution) (by simp)
    · obtain rfl := Resolution.rejected.inj (h.symm.trans hrefused.resolution)
      exact hrefused
  · exact Refused.resolution

theorem isValid_iff :
    (parse schemas schema key value).isValid = true ↔
      ∃ type condition, Reads schemas schema key value type condition := by
  simp only [← resolution_eq_valid_iff, isValid]
  cases (parse schemas schema key value).resolution with
  | valid type condition => simp
  | rejected reason => simp

/-- A parameter keeps its key, which the path of the filter is written as, cut at pairs of
underscores from the left. The filter is valid exactly if the key leads to a field whose type reads
the value, and else it is rejected for the first reason there is and matches no record. -/
theorem parse_outcome (schemas : Schemas) (schema : Schema) (key value : String) :
    let filter := parse schemas schema key value
    filter.key = key ∧ filter.path.text = key ∧
      FieldPath.IsCut (filter.path.segments.map String.toList) ∧
      (filter.isValid = true ↔ ∃ type condition, Reads schemas schema key value type condition) ∧
      (∀ type condition, filter.resolution = .valid type condition ↔
        Reads schemas schema key value type condition) ∧
      (∀ reason, filter.resolution = .rejected reason ↔
        Refused schemas schema key value reason) ∧
      (filter.isValid = false → ∀ record, filter.isMatch record = false) := by
  intro filter
  have hkey : filter.key = key := by
    simp only [filter, parse]
    split <;> rfl
  have hpath : filter.path = FieldPath.parse key := congrArg FieldPath.parse hkey
  obtain ⟨_, htext, hcut⟩ := FieldPath.parse_segments_iff.mp (congrArg FieldPath.segments hpath.symm)
  exact ⟨hkey, htext, hcut, isValid_iff, fun _ _ => resolution_eq_valid_iff,
    fun _ => resolution_eq_rejected_iff, isMatch_of_not_isValid⟩

end Parse

/-- Relations in a circle through two schemas of one name, and a run of three underscores in a
key. -/
theorem parse_outcome_of_circle :
    letI : RegexLibrary := .permissive
    let person : Schema := ⟨"Person", [⟨"age", .integer⟩, ⟨"team", .relation "team"⟩]⟩
    let team : Schema := ⟨"Team", [⟨"lead", .relation "lead"⟩]⟩
    let lead : Schema := ⟨"Person", [⟨"level", .integer⟩, ⟨"team", .relation "team"⟩]⟩
    let schemas : Schemas := ⟨fun key => if key = "lead" then lead else team⟩
    Reads schemas person "team__lead__team__lead__level" ">=18" .integer
        (.atLeast (.signed 18)) ∧
      Refused schemas person "team__lead__age" "18" (.unknownField "Person" "age") ∧
      Refused schemas person "team___lead__level" "18" (.unknownField "Team" "_lead") ∧
      (parse schemas person "team___lead__level" "18").isValid = false ∧
      ∀ record, (parse schemas person "team___lead__level" "18").isMatch record = false := by
  let : RegexLibrary := .permissive
  intro person team lead schemas
  obtain ⟨_, _, _, _, hvalid, _, _⟩ :=
    parse_outcome schemas person "team__lead__team__lead__level" ">=18"
  obtain ⟨_, _, _, _, _, hfield, _⟩ := parse_outcome schemas person "team__lead__age" "18"
  obtain ⟨_, _, _, _, _, hsegment, hmatch⟩ :=
    parse_outcome schemas person "team___lead__level" "18"
  have hinvalid : (parse schemas person "team___lead__level" "18").isValid = false := by
    decide
  exact ⟨(hvalid _ _).mp (by decide), (hfield _).mp (by decide), (hsegment _).mp (by decide),
    hinvalid, hmatch hinvalid⟩

end RecordQuery.Filter
