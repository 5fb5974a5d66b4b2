import Mathlib.Data.List.Basic
import Mathlib.Data.List.Induction
import RecordQuery.Schema

/-!
# Schemas that are built

A schema that is built says of each name what the last step that declares the name says of it, and
has its names in the order in which they are first declared: a field that is declared anew takes the
place of the earlier one, and any other goes to the end. A step whose type name is not known
declares nothing.
-/

namespace RecordQuery.Schema

theorem names_declareIn (field : Field) (fields : List Field) :
    (declareIn field fields).map Field.name =
      if field.name ∈ fields.map Field.name then fields.map Field.name
      else fields.map Field.name ++ [field.name] := by
  induction fields with
  | nil => rfl
  | cons first rest ih =>
    rw [declareIn]
    by_cases heq : first.name = field.name
    · rw [if_pos heq, List.map_cons, List.map_cons, if_pos (heq ▸ List.mem_cons_self), heq]
    · have hmem : field.name ∈ first.name :: rest.map Field.name ↔
          field.name ∈ rest.map Field.name := by
        rw [List.mem_cons]
        exact or_iff_right (Ne.symm heq)
      rw [if_neg heq, List.map_cons, ih, List.map_cons]
      by_cases hin : field.name ∈ rest.map Field.name
      · rw [if_pos hin, if_pos (hmem.mpr hin)]
      · rw [if_neg hin, if_neg (mt hmem.mp hin)]
        rfl

/-! ## One step -/

namespace Step

/-- The type of a declared field stands in the step, or the step has a known name of it. -/
inductive Declares : Step → Field → Prop where
  | field (name : String) (type : FieldType) : Declares (.field name type) ⟨name, type⟩
  | typed {name typeName : String} {type : FieldType} :
      FieldType.ofTypeName? typeName = some type → Declares (.typed name typeName) ⟨name, type⟩

/-- The step declares a field of this name. -/
def Names (s : Step) (key : String) : Prop := ∃ field, s.Declares field ∧ field.name = key

variable {s : Step} {field other : Field}

theorem declares_iff : s.Declares field ↔ s.field? = some field := by
  constructor
  · intro h
    cases h with
    | field => rfl
    | typed hknown => rw [Step.field?, hknown, Option.map_some]
  · intro h
    cases s with
    | field name type =>
      obtain rfl := Option.some.inj h
      exact .field name type
    | typed name typeName =>
      obtain ⟨type, hknown, rfl⟩ := Option.map_eq_some_iff.mp h
      exact .typed hknown

theorem Declares.unique (h : s.Declares field) (h' : s.Declares other) : field = other :=
  Option.some.inj ((declares_iff.mp h).symm.trans (declares_iff.mp h'))

instance (s : Step) (key : String) : Decidable (s.Names key) :=
  decidable_of_iff (∃ field ∈ s.field?, field.name = key)
    (exists_congr fun _ => and_congr_left' declares_iff.symm)

/-- A step declares a field in every schema or changes none. -/
theorem declares_or_keeps (s : Step) :
    (∃ field, s.Declares field ∧ ∀ schema : Schema, schema.step s = schema.declare field) ∨
      ∀ schema : Schema, schema.step s = schema := by
  unfold step
  cases hfield : s.field? with
  | some field => exact Or.inl ⟨field, declares_iff.mpr hfield, fun _ => rfl⟩
  | none => exact Or.inr fun _ => rfl

end Step

variable {name key : String} {steps : List Step} {s : Step} {field : Field}

theorem step_of_unknown {typeName : String} (h : FieldType.ofTypeName? typeName = none)
    (schema : Schema) (key : String) : schema.step (.typed key typeName) = schema := by
  rw [step, Step.field?, h, Option.map_none]

theorem field?_step_of_declares (h : s.Declares field) (schema : Schema) :
    (schema.step s).field? field.name = some field := by
  rw [step, Step.declares_iff.mp h, field?_declare, if_pos rfl]

theorem field?_step_of_not_names (h : ¬ s.Names key) (schema : Schema) :
    (schema.step s).field? key = schema.field? key := by
  rcases s.declares_or_keeps with ⟨field, hdeclares, hstep⟩ | hstep
  · rw [hstep, field?_declare, if_neg]
    rintro rfl
    exact h ⟨field, hdeclares, rfl⟩
  · rw [hstep]

theorem build_concat (name : String) (steps : List Step) (s : Step) :
    build name (steps ++ [s]) = (build name steps).step s := by
  rw [build, List.foldl_append, List.foldl_cons, List.foldl_nil]
  rfl

/-! ## The last declaration -/

/-- One of the steps declares the field, and none behind it declares the name anew. -/
def LastDeclares (steps : List Step) (field : Field) : Prop :=
  ∃ before last after, steps = before ++ last :: after ∧ last.Declares field ∧
    ∀ s ∈ after, ¬ s.Names field.name

theorem not_lastDeclares_nil (field : Field) : ¬ LastDeclares [] field := by
  rintro ⟨before, last, after, hsteps, _⟩
  exact List.append_ne_nil_of_right_ne_nil before (List.cons_ne_nil last after) hsteps.symm

theorem lastDeclares_concat_iff :
    LastDeclares (steps ++ [s]) field ↔
      s.Declares field ∨ ¬ s.Names field.name ∧ LastDeclares steps field := by
  constructor
  · rintro ⟨before, last, after, hsteps, hlast, hafter⟩
    rcases List.eq_nil_or_concat' after with rfl | ⟨after, final, rfl⟩
    · obtain ⟨_, hs⟩ := List.append_inj' hsteps rfl
      obtain rfl : s = last := List.singleton_inj.mp hs
      exact Or.inl hlast
    · rw [← List.cons_append, ← List.append_assoc] at hsteps
      obtain ⟨rfl, hs⟩ := List.append_inj' hsteps rfl
      obtain rfl : s = final := List.singleton_inj.mp hs
      obtain ⟨hbehind, hnew⟩ := List.forall_mem_append.mp hafter
      exact Or.inr ⟨hnew s List.mem_cons_self, before, last, after, rfl, hlast, hbehind⟩
  · rintro (h | ⟨hs, before, last, after, rfl, hlast, hafter⟩)
    · exact ⟨steps, s, [], rfl, h, List.forall_mem_nil _⟩
    · refine ⟨before, last, after ++ [s], ?_, hlast, ?_⟩
      · rw [List.append_assoc, List.cons_append]
      · exact List.forall_mem_append.mpr ⟨hafter, List.forall_mem_singleton.mpr hs⟩

theorem field?_build_iff :
    (build name steps).field? key = some field ↔
      field.name = key ∧ LastDeclares steps field := by
  induction steps using List.reverseRecOn with
  | nil =>
    constructor
    · intro h
      exact nomatch h
    · rintro ⟨_, h⟩
      exact absurd h (not_lastDeclares_nil field)
  | append_singleton steps s ih =>
    rw [build_concat, lastDeclares_concat_iff]
    by_cases hs : s.Names key
    · obtain ⟨declared, hdeclares, rfl⟩ := hs
      rw [field?_step_of_declares hdeclares]
      constructor
      · intro h
        obtain rfl := Option.some.inj h
        exact ⟨rfl, Or.inl hdeclares⟩
      · rintro ⟨hname, h | ⟨hs, _⟩⟩
        · rw [hdeclares.unique h]
        · exact absurd ⟨declared, hdeclares, hname.symm⟩ hs
    · rw [field?_step_of_not_names hs, ih]
      constructor
      · rintro ⟨rfl, h⟩
        exact ⟨rfl, Or.inr ⟨hs, h⟩⟩
      · rintro ⟨rfl, h | ⟨_, h⟩⟩
        · exact absurd ⟨field, h, rfl⟩ hs
        · exact ⟨rfl, h⟩

theorem isSome_field?_build_iff :
    ((build name steps).field? key).isSome ↔ ∃ s ∈ steps, s.Names key := by
  induction steps using List.reverseRecOn with
  | nil =>
    constructor
    · intro h
      exact nomatch h
    · rintro ⟨s, hs, _⟩
      exact absurd hs List.not_mem_nil
  | append_singleton steps s ih =>
    rw [build_concat]
    by_cases hs : s.Names key
    · refine iff_of_true ?_ ⟨s, List.mem_concat_self, hs⟩
      obtain ⟨field, hdeclares, rfl⟩ := hs
      rw [field?_step_of_declares hdeclares]
      rfl
    · rw [field?_step_of_not_names hs, ih]
      constructor
      · rintro ⟨earlier, hearlier, h⟩
        exact ⟨earlier, List.mem_append_left [s] hearlier, h⟩
      · rintro ⟨later, hlater, h⟩
        rcases List.mem_append.mp hlater with hlater | hlater
        · exact ⟨later, hlater, h⟩
        · rw [List.mem_singleton.mp hlater] at h
          exact absurd h hs

theorem isSome_field?_iff {schema : Schema} :
    (schema.field? key).isSome ↔ key ∈ schema.fields.map Field.name := by
  rw [field?, List.find?_isSome, List.mem_map]
  simp only [beq_iff_eq]

theorem mem_names_build_iff :
    key ∈ (build name steps).fields.map Field.name ↔ ∃ s ∈ steps, s.Names key :=
  isSome_field?_iff.symm.trans isSome_field?_build_iff

/-! ## The order of the fields -/

/-- The place of the first step that declares the name. -/
def firstPlace (steps : List Step) (key : String) : Nat := steps.findIdx fun s => s.Names key

theorem firstPlace_lt (h : ∃ s ∈ steps, s.Names key) : firstPlace steps key < steps.length := by
  obtain ⟨s, hs, hnames⟩ := h
  exact List.findIdx_lt_length_of_exists ⟨s, hs, decide_eq_true hnames⟩

theorem firstPlace_append (steps later : List Step) (key : String) :
    firstPlace (steps ++ later) key =
      if firstPlace steps key < steps.length then firstPlace steps key
      else firstPlace later key + steps.length :=
  List.findIdx_append

theorem firstPlace_append_of_declared (h : ∃ s ∈ steps, s.Names key) (later : List Step) :
    firstPlace (steps ++ later) key = firstPlace steps key := by
  rw [firstPlace_append, if_pos (firstPlace_lt h)]

theorem length_le_firstPlace (h : ¬ ∃ s ∈ steps, s.Names key) (later : List Step) :
    steps.length ≤ firstPlace (steps ++ later) key := by
  have hnone : firstPlace steps key = steps.length := by
    apply List.findIdx_eq_length_of_false
    intro s hs
    exact decide_eq_false fun hnames => h ⟨s, hs, hnames⟩
  rw [firstPlace_append, if_neg (Nat.not_lt.mpr (Nat.le_of_eq hnone.symm))]
  exact Nat.le_add_left _ _

theorem pairwise_names_build (name : String) (steps : List Step) :
    ((build name steps).fields.map Field.name).Pairwise fun a b =>
      firstPlace steps a < firstPlace steps b := by
  induction steps using List.reverseRecOn with
  | nil => exact List.Pairwise.nil
  | append_singleton steps s ih =>
    have hkeep : ((build name steps).fields.map Field.name).Pairwise fun a b =>
        firstPlace (steps ++ [s]) a < firstPlace (steps ++ [s]) b := by
      apply ih.imp_of_mem
      intro a b ha hb hlt
      rw [firstPlace_append_of_declared (mem_names_build_iff.mp ha),
        firstPlace_append_of_declared (mem_names_build_iff.mp hb)]
      exact hlt
    rw [build_concat]
    rcases s.declares_or_keeps with ⟨field, _, hstep⟩ | hstep
    · rw [hstep, declare, names_declareIn]
      by_cases hold : field.name ∈ (build name steps).fields.map Field.name
      · rw [if_pos hold]
        exact hkeep
      · rw [if_neg hold, List.pairwise_append]
        refine ⟨hkeep, List.pairwise_singleton _ _, ?_⟩
        intro key hkey last hlast
        rw [List.mem_singleton.mp hlast]
        have hdeclared := mem_names_build_iff.mp hkey
        calc firstPlace (steps ++ [s]) key
            = firstPlace steps key := firstPlace_append_of_declared hdeclared [s]
          _ < steps.length := firstPlace_lt hdeclared
          _ ≤ firstPlace (steps ++ [s]) field.name :=
              length_le_firstPlace (mt mem_names_build_iff.mpr hold) [s]
    · rw [hstep]
      exact hkeep

theorem nodup_build (name : String) (steps : List Step) :
    ((build name steps).fields.map Field.name).Nodup := by
  apply (pairwise_names_build name steps).imp
  rintro key _ hlt rfl
  exact Nat.lt_irrefl _ hlt

/-- The fields have different names. A name has a field exactly if a step declares it, and its field
is the one of the last such step. The fields stand in the order in which their names are first
declared. A step with a type name that is not known could as well be left out, whatever was said of
its name before. -/
theorem fields_of_declarations (name : String) (steps : List Step) :
    let schema := build name steps
    (schema.fields.map Field.name).Nodup ∧
      (∀ key, (schema.field? key).isSome ↔ ∃ s ∈ steps, s.Names key) ∧
      (∀ key field, schema.field? key = some field ↔
        field.name = key ∧ LastDeclares steps field) ∧
      (schema.fields.Pairwise fun a b => firstPlace steps a.name < firstPlace steps b.name) ∧
      ∀ key typeName later, FieldType.ofTypeName? typeName = none →
        build name (steps ++ .typed key typeName :: later) = build name (steps ++ later) := by
  intro schema
  have horder := pairwise_names_build name steps
  rw [List.pairwise_map] at horder
  refine ⟨nodup_build name steps, fun _ => isSome_field?_build_iff, fun _ _ => field?_build_iff,
    horder, ?_⟩
  intro key typeName later hunknown
  simp only [build, List.foldl_append, List.foldl_cons, step_of_unknown hunknown]

/-- A name that is first given an unknown type comes last, and one that is given an unknown type
later keeps its relation. -/
theorem fields_of_declarations_of_unknown_types :
    let steps : List Step := [.typed "photo" "BinaryField", .field "name" .text,
      .field "owner" (.relation "Person"), .typed "photo" "URLField", .typed "name" "FloatField",
      .typed "owner" "ForeignKey"]
    let schema := build "Gadget" steps
    schema.fields = [⟨"name", .float⟩, ⟨"owner", .relation "Person"⟩, ⟨"photo", .text⟩] ∧
      LastDeclares steps ⟨"name", .float⟩ ∧ LastDeclares steps ⟨"owner", .relation "Person"⟩ ∧
      firstPlace steps "owner" < firstPlace steps "photo" ∧
      FieldType.ofTypeName? "ForeignKey" = none ∧
      build "Gadget" (steps ++ [.typed "photo" "ForeignKey"]) = schema := by
  intro steps schema
  obtain ⟨_, _, hlast, horder, hunknown⟩ := fields_of_declarations "Gadget" steps
  have hfields : schema.fields =
      [⟨"name", .float⟩, ⟨"owner", .relation "Person"⟩, ⟨"photo", .text⟩] := by decide
  have hforeign : FieldType.ofTypeName? "ForeignKey" = none := by decide
  have hname : schema.field? "name" = some ⟨"name", .float⟩ := by
    rw [field?, hfields]
    rfl
  have howner : schema.field? "owner" = some ⟨"owner", .relation "Person"⟩ := by
    rw [field?, hfields]
    rfl
  rw [hfields] at horder
  have hbehind := (List.pairwise_cons.mp (List.pairwise_cons.mp horder).2).1
  refine ⟨hfields, ((hlast _ _).mp hname).2, ((hlast _ _).mp howner).2,
    hbehind _ List.mem_cons_self, hforeign, ?_⟩
  rw [hunknown "photo" "ForeignKey" [] hforeign, List.append_nil]

end RecordQuery.Schema
