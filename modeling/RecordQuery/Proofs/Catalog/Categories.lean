import RecordQuery.Catalog.Basic
import RecordQuery.Proofs.Catalog.Rules
import RecordQuery.Proofs.Numeric.Digits

/-!
# Categories given by number

A number stands for the first category that has it, where the items are gone through in order and
each chain of parents upwards. Every category of an item and every one above it can be given this
way, and no other.
-/

namespace RecordQuery

namespace Lineage

variable {a c : Lineage} {id : UInt64}

/-- The first record is the second one or lies above it. -/
inductive AtOrAbove : Lineage → Lineage → Prop where
  | self (c : Lineage) : AtOrAbove c c
  | step {a above : Lineage} (id : UInt64) (name : String) (h : AtOrAbove a above) :
      AtOrAbove a (.under id name above)

/-- On the way up from the first record, the second one is the first with the number. -/
inductive Meets (id : UInt64) : Lineage → Lineage → Prop where
  | here {c : Lineage} (h : c.id = id) : Meets id c c
  | step {above a : Lineage} {own : UInt64} (name : String) (hother : own ≠ id)
      (h : Meets id above a) : Meets id (.under own name above) a

theorem mem_chain_iff : a ∈ c.chain ↔ AtOrAbove a c := by
  constructor
  · intro h
    induction c with
    | top id name =>
      obtain rfl := List.mem_singleton.mp h
      exact .self _
    | under id name above ih =>
      rcases List.mem_cons.mp h with rfl | h
      · exact .self _
      · exact .step id name (ih h)
  · intro h
    induction h with
    | self => cases a <;> exact List.mem_cons_self
    | step id name _ ih => exact List.mem_cons_of_mem _ ih

theorem find?_chain_of_id (h : c.id = id) :
    (c.chain.find? fun category => category.id == id) = some c := by
  cases c <;> exact List.find?_cons_of_pos (beq_iff_eq.mpr h)

theorem find?_chain_of_other {own : UInt64} (name : String) {above : Lineage} (h : own ≠ id) :
    ((under own name above).chain.find? fun category => category.id == id) =
      above.chain.find? fun category => category.id == id :=
  List.find?_cons_of_neg (fun heq => h (eq_of_beq heq))

theorem find?_chain_iff :
    (c.chain.find? fun category => category.id == id) = some a ↔ Meets id c a := by
  constructor
  · intro h
    induction c with
    | top own name =>
      obtain rfl := List.mem_singleton.mp (List.mem_of_find?_eq_some h)
      have hid := List.find?_some h
      exact .here (eq_of_beq hid)
    | under own name above ih =>
      by_cases hown : own = id
      · rw [find?_chain_of_id (c := .under own name above) hown] at h
        obtain rfl := Option.some.inj h
        exact .here hown
      · rw [find?_chain_of_other name hown] at h
        exact .step name hown (ih h)
  · intro h
    induction h with
    | here h => exact find?_chain_of_id h
    | step name hother _ ih => rw [find?_chain_of_other name hother, ih]

end Lineage

namespace Catalog

variable {items : List Item} {item : Item} {a c : Category} {id : UInt64}

/-- A category with the number is that of an item of the list, or lies above it. -/
def Known (items : List Item) (id : UInt64) : Prop :=
  ∃ item ∈ items, ∃ c, item.category = some c ∧ ∃ a, Lineage.AtOrAbove a c ∧ a.id = id

/-- The first category with the number, where the items are gone through in order and from each
category the way goes up. -/
inductive FirstMet (id : UInt64) : List Item → Category → Prop where
  | here {item : Item} {c a : Category} (items : List Item) (hcategory : item.category = some c)
      (h : Lineage.Meets id c a) : FirstMet id (item :: items) a
  | later {item : Item} {items : List Item} {a : Category}
      (hothers : ∀ c, item.category = some c → ∀ b, Lineage.AtOrAbove b c → b.id ≠ id)
      (h : FirstMet id items a) : FirstMet id (item :: items) a

theorem mem_categories_iff :
    a ∈ categories items ↔
      ∃ item ∈ items, ∃ c, item.category = some c ∧ Lineage.AtOrAbove a c := by
  simp only [categories, List.mem_flatMap]
  constructor
  · rintro ⟨item, hitem, h⟩
    split at h
    · rename_i c hcategory
      exact ⟨item, hitem, c, hcategory, Lineage.mem_chain_iff.mp h⟩
    · exact nomatch h
  · rintro ⟨item, hitem, c, hcategory, h⟩
    refine ⟨item, hitem, ?_⟩
    rw [hcategory]
    exact Lineage.mem_chain_iff.mpr h

theorem isSome_find?_categories_iff :
    ((categories items).find? fun category => category.id == id).isSome = true ↔
      Known items id := by
  rw [List.find?_isSome]
  constructor
  · rintro ⟨a, ha, hid⟩
    obtain ⟨item, hitem, c, hcategory, habove⟩ := mem_categories_iff.mp ha
    exact ⟨item, hitem, c, hcategory, a, habove, eq_of_beq hid⟩
  · rintro ⟨item, hitem, c, hcategory, a, habove, hid⟩
    exact ⟨a, mem_categories_iff.mpr ⟨item, hitem, c, hcategory, habove⟩, beq_iff_eq.mpr hid⟩

theorem categories_cons (item : Item) (items : List Item) :
    categories (item :: items) =
      (match item.category with
        | some c => c.chain
        | none => []) ++ categories items := rfl

/-- The chain of an item, searched before those of the items behind it. -/
theorem find?_categories_of_some (hcategory : item.category = some c) :
    ((categories (item :: items)).find? fun category => category.id == id) =
      (c.chain.find? fun category => category.id == id).or
        ((categories items).find? fun category => category.id == id) := by
  rw [categories_cons, hcategory, List.find?_append]

theorem find?_categories_of_others
    (hothers : ∀ c, item.category = some c → ∀ b, Lineage.AtOrAbove b c → b.id ≠ id) :
    ((categories (item :: items)).find? fun category => category.id == id) =
      (categories items).find? fun category => category.id == id := by
  cases hcategory : item.category with
  | none =>
    rw [categories_cons, hcategory]
    rfl
  | some c =>
    have hnone : (c.chain.find? fun category => category.id == id) = none := by
      rw [List.find?_eq_none]
      intro b hb heq
      exact hothers c hcategory b (Lineage.mem_chain_iff.mp hb) (eq_of_beq heq)
    rw [find?_categories_of_some hcategory, hnone, Option.none_or]

theorem find?_categories_iff :
    ((categories items).find? fun category => category.id == id) = some a ↔
      FirstMet id items a := by
  constructor
  · intro h
    induction items with
    | nil => exact nomatch h
    | cons item items ih =>
      by_cases hothers : ∀ c, item.category = some c → ∀ b, Lineage.AtOrAbove b c → b.id ≠ id
      · rw [find?_categories_of_others hothers] at h
        exact .later hothers (ih h)
      · simp only [not_forall, not_not] at hothers
        obtain ⟨c, hcategory, b, habove, hid⟩ := hothers
        have hsome : (c.chain.find? fun category => category.id == id).isSome = true :=
          List.find?_isSome.mpr ⟨b, Lineage.mem_chain_iff.mpr habove, beq_iff_eq.mpr hid⟩
        obtain ⟨first, hfirst⟩ := Option.isSome_iff_exists.mp hsome
        rw [find?_categories_of_some hcategory, hfirst, Option.some_or] at h
        obtain rfl := Option.some.inj h
        exact .here items hcategory (Lineage.find?_chain_iff.mp hfirst)
  · intro h
    induction h with
    | here items hcategory h =>
      rw [find?_categories_of_some hcategory, Lineage.find?_chain_iff.mpr h, Option.some_or]
    | later hothers _ ih => rw [find?_categories_of_others hothers, ih]

/-! ## Payloads -/

theorem category?_eq_some_iff {raw : String} :
    category? (categories items) raw = some a ↔
      ∃ id : UInt64, Digits.IsUnsigned raw.toList id.toNat ∧ FirstMet id items a := by
  rw [category?, Option.bind_eq_some_iff]
  simp only [Digits.readUInt64?_eq_some_iff, find?_categories_iff]

theorem exists_category?_iff {raw : String} :
    (∃ a, category? (categories items) raw = some a) ↔
      ∃ id : UInt64, Digits.IsUnsigned raw.toList id.toNat ∧ Known items id := by
  constructor
  · rintro ⟨a, ha⟩
    obtain ⟨id, hraw, hfirst⟩ := category?_eq_some_iff.mp ha
    exact ⟨id, hraw, isSome_find?_categories_iff.mp
      (Option.isSome_iff_exists.mpr ⟨a, find?_categories_iff.mpr hfirst⟩)⟩
  · rintro ⟨id, hraw, hknown⟩
    obtain ⟨a, ha⟩ := Option.isSome_iff_exists.mp (isSome_find?_categories_iff.mpr hknown)
    exact ⟨a, category?_eq_some_iff.mpr ⟨id, hraw, find?_categories_iff.mp ha⟩⟩

theorem get?_category_clean {payload : Entries} {partially : Bool}
    (h : (fieldRules.errors payload partially).isEmpty = true) :
    Entries.get? (fieldRules.clean payload partially) "category" =
      Entries.get? payload "category" := by
  have hfield : (⟨"category", .relation "Category"⟩ : Field) ∈ fieldRules.schema.fields := by
    simp [fieldRules, Item.schema]
  exact FieldRules.get?_clean_relation nodup_fields hfield rfl (by decide)
    (FieldRules.passes_of_isEmpty_errors h hfield)

/-- A clean payload with the key of a category is answered by the look-up of the category. -/
theorem validator_of_key (known : List Category) {payload : Json} {partially : Bool}
    {clean : Entries} (hclean : fieldRules.validate payload partially = .ok (.object clean))
    {raw : String} (hkey : (Entries.get? clean "category").bind categoryKey? = some raw) :
    validator known payload partially =
      match category? known raw with
      | some a => .ok (.object (Entries.insert "category" (a.encode categoryForm) clean))
      | none => .error (unknownCategory raw) := by
  simp only [validator, hclean, resolveCategory, hkey]
  cases category? known raw <;> rfl

theorem entries_unknownCategory (raw : String) :
    (unknownCategory raw).entries =
      [("category", ["Invalid pk \"" ++ raw ++ "\" - object does not exist."])] := rfl

/-- A category that is given by number, in a payload that the field rules let pass. The payload is
accepted if and only if the text of the number is an unsigned number of 64 bits that an item's
category has, or one above it. The category that stands in its place is then the first one that is
met, and the rest of the clean payload stays as it was; otherwise the category is the one field
complained about. -/
theorem category_resolves (items : List Item) {payload : Json} {partially : Bool} {clean : Entries}
    (hclean : fieldRules.validate payload partially = .ok (.object clean)) {value : Json}
    (hvalue : payload.get? "category" = some value) {raw : String}
    (hraw : (∃ n, value = .number n ∧ raw = n.text) ∨
      ∃ s, value = .string s ∧ raw = Text.trim s) :
    ((∃ result, validator (categories items) payload partially = .ok result) ↔
      ∃ id : UInt64, Digits.IsUnsigned raw.toList id.toNat ∧ Known items id) ∧
    (∀ result, validator (categories items) payload partially = .ok result →
      ∃ (resolved : Entries) (id : UInt64) (a : Category), result = .object resolved ∧
        Digits.IsUnsigned raw.toList id.toNat ∧ FirstMet id items a ∧
        Entries.get? resolved "category" = some (a.encode categoryForm) ∧
        ∀ key, key ≠ "category" → Entries.get? resolved key = Entries.get? clean key) ∧
    (∀ errors, validator (categories items) payload partially = .error errors →
      errors.entries =
        [("category", ["Invalid pk \"" ++ raw ++ "\" - object does not exist."])]) := by
  obtain ⟨given, rfl, herrors, hobject⟩ := FieldRules.exists_of_validate hclean
  obtain rfl := Json.object.inj hobject
  have hgiven : Entries.get? given "category" = some value := hvalue
  have hkey : (Entries.get? (fieldRules.clean given partially) "category").bind categoryKey? =
      some raw := by
    rw [get?_category_clean herrors, hgiven]
    rcases hraw with ⟨n, rfl, rfl⟩ | ⟨s, rfl, rfl⟩ <;> rfl
  have hvalidator := validator_of_key (categories items) hclean hkey
  rw [← exists_category?_iff]
  cases hfound : category? (categories items) raw with
  | none =>
    rw [hfound] at hvalidator
    rw [hvalidator]
    refine ⟨iff_of_false ?_ ?_, ?_, ?_⟩
    · rintro ⟨result, h⟩
      exact nomatch h
    · rintro ⟨a, h⟩
      exact nomatch h
    · intro result h
      exact nomatch h
    · intro errors h
      obtain rfl := Except.error.inj h
      exact entries_unknownCategory raw
  | some a =>
    rw [hfound] at hvalidator
    rw [hvalidator]
    refine ⟨iff_of_true ⟨_, rfl⟩ ⟨a, rfl⟩, ?_, ?_⟩
    · intro result h
      obtain rfl := Except.ok.inj h
      obtain ⟨id, hspelled, hfirst⟩ := category?_eq_some_iff.mp hfound
      refine ⟨_, id, a, rfl, hspelled, hfirst, ?_, fun key hne => ?_⟩
      · rw [Entries.get?_insert, if_pos rfl]
      · rw [Entries.get?_insert, if_neg hne]
    · intro errors h
      exact nomatch h

/-- The second category from the top, given with a sign, zeros and blanks. -/
theorem category_resolves_of_padded_number :
    let tools : Category := .under 2 "Tools" (.top 1 "All")
    let items : List Item :=
      [⟨1, "A-1", "saw", .ofInt 5, 0, true, "", some (.under 3 "Saws" tools), []⟩]
    let payload : Json := .object [("category", .string " +002 ")]
    fieldRules.validate payload true = .ok payload ∧
      payload.get? "category" = some (.string " +002 ") ∧
      Text.trim " +002 " = "+002" ∧
      (∃ result, validator (categories items) payload true = .ok result) ∧
      ∀ result, validator (categories items) payload true = .ok result →
        result.get? "category" = some (tools.encode categoryForm) := by
  intro tools items payload
  have hclean : fieldRules.validate payload true = .ok payload := by rfl
  have hvalue : payload.get? "category" = some (.string " +002 ") := rfl
  have hraw : Text.trim " +002 " = "+002" := by decide
  obtain ⟨haccepted, hresult, _⟩ :=
    category_resolves items hclean hvalue (Or.inr ⟨_, rfl, hraw.symm⟩)
  have hspelled : Digits.IsUnsigned "+002".toList (2 : UInt64).toNat :=
    ⟨['0', '0', '2'], Or.inr rfl, by simp, by simp, by decide⟩
  have hknown : Known items 2 :=
    ⟨_, List.mem_singleton_self _, _, rfl, tools, .step 3 "Saws" (.self tools), rfl⟩
  refine ⟨hclean, hvalue, hraw, haccepted.mpr ⟨2, hspelled, hknown⟩, ?_⟩
  intro result h
  obtain ⟨resolved, id, a, rfl, hid, hfirst, hcategory, _⟩ := hresult result h
  have hread := Digits.readUInt64?_eq_some_iff.mpr hid
  obtain rfl : 2 = id := Option.some.inj (.trans (by decide) hread)
  have hfind := find?_categories_iff.mpr hfirst
  obtain rfl : tools = a := Option.some.inj (.trans (by decide) hfind)
  exact hcategory

end Catalog

end RecordQuery
