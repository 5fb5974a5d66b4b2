import RecordQuery.FieldPath

/-!
# Keys and the records they lead to

A key is cut at its pairs of underscores in one way, and the pieces joined again are the key. The
pieces before the last lead along relations to a schema, or stop at the first that names none.
-/

namespace RecordQuery

namespace FieldPath

/-! ## Cutting a key -/

/-- No piece holds a pair of underscores, and none but the last ends with an underscore. -/
def IsCut (pieces : List (List Char)) : Prop :=
  (∀ piece ∈ pieces, ¬['_', '_'] <:+: piece) ∧ ∀ piece ∈ pieces.dropLast, '_' ∉ piece.getLast?

variable {cs piece rest : List Char} {pieces : List (List Char)} {c : Char}

theorem splitPairs_ne_nil (cs : List Char) : splitPairs cs ≠ [] := by
  fun_cases splitPairs cs <;> simp

theorem splitPairs_cons (h : ¬['_', '_'] <+: c :: cs) :
    splitPairs (c :: cs) = (splitPairs cs).modifyHead (c :: ·) := by
  obtain ⟨first, more, hcs⟩ := List.exists_cons_of_ne_nil (splitPairs_ne_nil cs)
  rw [splitPairs]
  · rw [hcs]
    rfl
  · rintro rest rfl rfl
    exact h ⟨rest, rfl⟩

/-- The guard of the last branch of `splitPairs`: the text does not start with a pair. -/
theorem not_prefix_of_no_pair (h : ∀ behind, c = '_' → cs = '_' :: behind → False) :
    ¬['_', '_'] <+: c :: cs := by
  rintro ⟨behind, hkey⟩
  obtain ⟨rfl, rfl⟩ := List.cons.inj hkey
  exact h behind rfl rfl

theorem intercalate_splitPairs (cs : List Char) :
    List.intercalate ['_', '_'] (splitPairs cs) = cs := by
  induction cs using splitPairs.induct with
  | case1 => rfl
  | case2 rest ih =>
    rw [splitPairs, List.intercalate_cons_of_ne_nil (splitPairs_ne_nil rest), ih]
    rfl
  | case3 c rest h first more hrest ih =>
    rw [splitPairs_cons (not_prefix_of_no_pair h), hrest, List.modifyHead_cons]
    rw [hrest] at ih
    cases more with
    | nil =>
      rw [List.intercalate_singleton] at ih ⊢
      rw [ih]
    | cons second others =>
      rw [List.intercalate_cons_cons] at ih ⊢
      rw [← ih]
      rfl
  | case4 c rest h hnil => exact absurd hnil (splitPairs_ne_nil rest)

theorem splitPairs_of_no_pair (h : ¬['_', '_'] <:+: piece) : splitPairs piece = [piece] := by
  induction piece with
  | nil => rfl
  | cons c piece ih =>
    rw [List.infix_cons_iff, not_or] at h
    rw [splitPairs_cons h.1, ih h.2]
    rfl

theorem splitPairs_append (h : ¬['_', '_'] <:+: piece) (hlast : '_' ∉ piece.getLast?) :
    splitPairs (piece ++ '_' :: '_' :: rest) = piece :: splitPairs rest := by
  induction piece with
  | nil => rfl
  | cons c piece ih =>
    rw [List.infix_cons_iff, not_or] at h
    have hpair : ¬['_', '_'] <+: c :: (piece ++ '_' :: '_' :: rest) := by
      rintro ⟨behind, hkey⟩
      obtain ⟨rfl, hbehind⟩ := List.cons.inj hkey
      cases piece with
      | nil => exact hlast rfl
      | cons d piece =>
        obtain ⟨rfl, _⟩ := List.cons.inj hbehind
        exact h.1 ⟨piece, rfl⟩
    have hlast' : '_' ∉ piece.getLast? := by
      intro hmem
      exact hlast (by rw [List.getLast?_cons, Option.mem_def.mp hmem]; rfl)
    rw [List.cons_append, splitPairs_cons hpair, ih h.2 hlast']
    rfl

theorem splitPairs_intercalate (hne : pieces ≠ []) (hcut : IsCut pieces) :
    splitPairs (List.intercalate ['_', '_'] pieces) = pieces := by
  induction pieces with
  | nil => exact absurd rfl hne
  | cons piece pieces ih =>
    cases pieces with
    | nil =>
      rw [List.intercalate_singleton]
      exact splitPairs_of_no_pair (hcut.1 piece List.mem_cons_self)
    | cons second others =>
      have hlast : '_' ∉ piece.getLast? := hcut.2 piece (by simp)
      have hrest : IsCut (second :: others) :=
        ⟨fun p hp => hcut.1 p (List.mem_cons_of_mem _ hp),
          fun p hp => hcut.2 p (List.mem_cons_of_mem _ hp)⟩
      rw [List.intercalate_cons_cons, List.append_assoc]
      exact (splitPairs_append (hcut.1 piece List.mem_cons_self) hlast).trans
        (congrArg _ (ih (List.cons_ne_nil second others) hrest))

theorem prefix_intercalate (piece : List Char) (pieces : List (List Char)) :
    piece <+: List.intercalate ['_', '_'] (piece :: pieces) := by
  cases pieces with
  | nil => simp only [List.intercalate_singleton, List.prefix_rfl]
  | cons second others =>
    rw [List.intercalate_cons_cons, List.append_assoc]
    exact List.prefix_append _ _

/-- A character in front of the first piece leaves a cut, unless it makes a new pair. -/
theorem IsCut.cons_head (h : IsCut (piece :: pieces))
    (hpair : ¬['_', '_'] <+: c :: List.intercalate ['_', '_'] (piece :: pieces)) :
    IsCut ((c :: piece) :: pieces) := by
  constructor
  · refine List.forall_mem_cons.mpr ⟨?_, fun p hp => h.1 p (List.mem_cons_of_mem _ hp)⟩
    rw [List.infix_cons_iff]
    rintro (hstart | hinside)
    · exact hpair (hstart.trans (List.cons_prefix_cons.mpr ⟨rfl, prefix_intercalate piece pieces⟩))
    · exact h.1 piece List.mem_cons_self hinside
  · cases pieces with
    | nil => simp
    | cons second others =>
      refine List.forall_mem_cons.mpr ⟨?_, fun p hp => h.2 p (List.mem_cons_of_mem _ hp)⟩
      rw [List.getLast?_cons, Option.mem_some_iff]
      intro hlast
      cases hpiece : piece.getLast? with
      | none =>
        obtain rfl := List.getLast?_eq_none_iff.mp hpiece
        obtain rfl : c = '_' := by simpa using hlast
        apply hpair
        rw [List.intercalate_cons_cons]
        exact ⟨_, rfl⟩
      | some d =>
        obtain rfl : d = '_' := by simpa [hpiece] using hlast
        exact h.2 piece List.mem_cons_self hpiece

theorem isCut_splitPairs (cs : List Char) : IsCut (splitPairs cs) := by
  induction cs using splitPairs.induct with
  | case1 => exact ⟨by simp [splitPairs], by simp [splitPairs]⟩
  | case2 rest ih =>
    rw [splitPairs]
    constructor
    · exact List.forall_mem_cons.mpr ⟨by simp, ih.1⟩
    · rw [List.dropLast_cons_of_ne_nil (splitPairs_ne_nil rest)]
      exact List.forall_mem_cons.mpr ⟨by simp, ih.2⟩
  | case3 c rest h first more hrest ih =>
    have hpair := not_prefix_of_no_pair h
    have hjoin := intercalate_splitPairs rest
    rw [hrest] at ih hjoin
    rw [splitPairs_cons hpair, hrest]
    exact ih.cons_head (hjoin ▸ hpair)
  | case4 c rest h hnil => exact absurd hnil (splitPairs_ne_nil rest)

/-- The segments of a key are the only pieces of it that are cut at pairs of underscores from the
left. -/
theorem parse_segments_iff {key : String} {segments : List String} :
    (parse key).segments = segments ↔
      segments ≠ [] ∧ String.intercalate "__" segments = key ∧
        IsCut (segments.map String.toList) := by
  have hmap (pieces : List (List Char)) :
      (pieces.map String.ofList).map String.toList = pieces := by
    simp [Function.comp_def]
  constructor
  · rintro rfl
    refine ⟨by simp [parse, splitPairs_ne_nil], ?_, ?_⟩
    · apply String.toList_injective
      rw [String.toList_intercalate, parse, hmap]
      exact intercalate_splitPairs key.toList
    · rw [parse, hmap]
      exact isCut_splitPairs key.toList
  · rintro ⟨hne, rfl, hcut⟩
    rw [parse, String.toList_intercalate]
    change (splitPairs (List.intercalate ['_', '_'] (segments.map String.toList))).map String.ofList =
      segments
    rw [splitPairs_intercalate (by simpa using hne) hcut]
    simp [Function.comp_def]

theorem text_parse (key : String) : (parse key).text = key :=
  (parse_segments_iff.mp rfl).2.1

/-! ## Following relations -/

/-- The names lead from one schema to another along relations. -/
inductive Leads (schemas : Schemas) : Schema → List String → Schema → Prop where
  | here (schema : Schema) : Leads schemas schema [] schema
  | hop {schema reached : Schema} {name target : String} {field : Field} {names : List String} :
      schema.field? name = some field → field.type = .relation target →
      Leads schemas (schemas.related target) names reached →
      Leads schemas schema (name :: names) reached

/-- Why a name cannot be followed from a schema. -/
inductive Stops (schema : Schema) (name : String) : Rejection → Prop where
  | unknown : schema.field? name = none → Stops schema name (.unknownField schema.name name)
  | noRelation {field : Field} : schema.field? name = some field → field.type.isRelation = false →
      Stops schema name (.notARelation schema.name name)

variable {schemas : Schemas} {schema reached : Schema} {name : String} {names behind : List String}
  {reason : Rejection} {path : FieldPath}

theorem Leads.follow (h : Leads schemas schema names reached) :
    FieldPath.follow schemas schema names = .ok reached := by
  induction h with
  | here schema => rfl
  | hop hfield htype _ ih => simp only [FieldPath.follow, hfield, htype, ih]

/-- The first name that cannot be followed decides, whatever stands behind it. -/
theorem Leads.follow_of_stops (h : Leads schemas schema names reached)
    (hstop : Stops reached name reason) (behind : List String) :
    FieldPath.follow schemas schema (names ++ name :: behind) = .error reason := by
  induction h with
  | here schema =>
    rw [List.nil_append, FieldPath.follow]
    cases hstop with
    | unknown hfield => rw [hfield]
    | @noRelation field hfield htype =>
      rw [hfield]
      cases hkind : field.type with
      | relation target => exact absurd (hkind ▸ htype) (by simp [FieldType.isRelation])
      | text | integer | float | decimal | datetime | boolean => simp only [hkind]
  | hop hfield htype _ ih => simp only [List.cons_append, FieldPath.follow, hfield, htype, ih hstop]

theorem leads_or_stops (schemas : Schemas) (schema : Schema) (names : List String) :
    (∃ reached, Leads schemas schema names reached) ∨
      ∃ before name behind reached reason, names = before ++ name :: behind ∧
        Leads schemas schema before reached ∧ Stops reached name reason := by
  induction names generalizing schema with
  | nil => exact Or.inl ⟨schema, Leads.here schema⟩
  | cons name names ih =>
    cases hfield : schema.field? name with
    | none => exact Or.inr ⟨[], name, names, schema, _, rfl, Leads.here schema, Stops.unknown hfield⟩
    | some field =>
      cases htype : field.type with
      | relation target =>
        rcases ih (schemas.related target) with ⟨reached, hleads⟩ |
          ⟨before, stop, behind, reached, reason, rfl, hleads, hstop⟩
        · exact Or.inl ⟨reached, Leads.hop hfield htype hleads⟩
        · exact Or.inr ⟨name :: before, stop, behind, reached, reason, rfl,
            Leads.hop hfield htype hleads, hstop⟩
      | text | integer | float | decimal | datetime | boolean =>
        exact Or.inr ⟨[], name, names, schema, _, rfl, Leads.here schema,
          Stops.noRelation hfield (by rw [htype]; rfl)⟩

theorem resolve_of_empty (h : "" ∈ path.segments) :
    path.resolve schemas schema = .error (.emptySegment path.text) := by
  have hany : path.segments.any String.isEmpty = true :=
    List.any_eq_true.mpr ⟨"", h, rfl⟩
  rw [resolve, hany, Bool.or_true, if_pos rfl]

theorem resolve_of_segments (hfull : "" ∉ path.segments) (h : path.segments = names ++ [name]) :
    path.resolve schemas schema =
      (FieldPath.follow schemas schema names).bind fun reached =>
        match reached.field? name with
        | some field => .ok field.type
        | none => .error (.unknownField reached.name name) := by
  have hany : (path.segments.isEmpty || path.segments.any String.isEmpty) = false := by
    have hnone : ∀ segment ∈ path.segments, ¬segment.isEmpty = true := by
      intro segment hsegment hempty
      exact hfull (String.isEmpty_iff.mp hempty ▸ hsegment)
    rw [Bool.or_eq_false_iff]
    exact ⟨by simp [h], List.any_eq_false.mpr hnone⟩
  have hhops : path.hops = names := by rw [hops, h, List.dropLast_concat]
  have hleaf : path.leaf = name := by rw [leaf, h, List.getLast?_concat, Option.getD_some]
  have hresolve : path.resolve schemas schema =
      (FieldPath.follow schemas schema path.hops).bind fun reached =>
        match reached.field? path.leaf with
        | some field => .ok field.type
        | none => .error (.unknownField reached.name path.leaf) := by
    rw [resolve, hany]
    rfl
  rw [hresolve, hhops, hleaf]

end FieldPath

end RecordQuery
