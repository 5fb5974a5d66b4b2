import RecordQuery.Catalog.Rules
import RecordQuery.Proofs.FieldRules

/-!
# Payloads for items

What is known of the stock number in a payload that the rules of a catalog let pass: it is a text,
or was a number and is its text now, and only a partial payload may leave it out.
-/

namespace RecordQuery.Catalog

/-- The stock number that a payload asks for, if it asks for one. -/
def askedSku? (payload : Json) : Option String := (payload.get? "sku").bind Json.asText?

theorem nodup_fields : (fieldRules.schema.fields.map Field.name).Nodup := by decide

theorem get?_sku_clean {payload : Entries} {partially : Bool}
    (h : (fieldRules.errors payload partially).isEmpty = true) :
    Entries.get? (fieldRules.clean payload partially) "sku" =
        (askedSku? (.object payload)).map .string ∧
      (partially = false → (askedSku? (.object payload)).isSome = true) := by
  have hfield : (⟨"sku", .text⟩ : Field) ∈ fieldRules.schema.fields := by
    simp [fieldRules, Item.schema]
  have hpasses := FieldRules.passes_of_isEmpty_errors h hfield
  have hclean : Entries.get? (fieldRules.clean payload partially) "sku" = _ :=
    FieldRules.get?_clean nodup_fields hfield
  have hasked : askedSku? (.object payload) = (Entries.get? payload "sku").bind Json.asText? := rfl
  rw [hclean, hasked]
  rcases FieldRules.checkField_text rfl (by decide) (by decide) hpasses with
    ⟨hnone, hcheck, hmay⟩ | ⟨s, hs, hcheck⟩
  · rw [hcheck, hnone]
    refine ⟨rfl, fun hwhole => ?_⟩
    rcases hmay with hpartial | hfree
    · exact absurd (hwhole.symm.trans hpartial) (by simp)
    · exact absurd hfree (by decide)
  · rw [hcheck, hs]
    exact ⟨rfl, fun _ => rfl⟩

section Resolved

variable {known : List Category} {clean resolved : Entries}
variable (h : resolveCategory known clean = .ok resolved)
include h

theorem resolveCategory_cases :
    ((Entries.get? clean "category").bind categoryKey? = none ∧ resolved = clean) ∨
    ∃ raw category, (Entries.get? clean "category").bind categoryKey? = some raw ∧
      category? known raw = some category ∧
      resolved = Entries.insert "category" (category.encode categoryForm) clean := by
  unfold resolveCategory at h
  split at h
  · rename_i hkey
    exact Or.inl ⟨hkey, (Except.ok.inj h).symm⟩
  · rename_i raw hkey
    split at h
    · rename_i category hcategory
      exact Or.inr ⟨raw, category, hkey, hcategory, (Except.ok.inj h).symm⟩
    · exact absurd h (by simp)

/-- Putting in a category leaves the rest of a payload as it is. -/
theorem get?_of_resolveCategory (hclean : clean.Ascending) :
    resolved.Ascending ∧
      ∀ key, key ≠ "category" → Entries.get? resolved key = Entries.get? clean key := by
  rcases resolveCategory_cases h with ⟨_, rfl⟩ | ⟨_, category, _, _, rfl⟩
  · exact ⟨hclean, fun _ _ => rfl⟩
  · refine ⟨hclean.insert _ _, fun key hkey => ?_⟩
    rw [Entries.get?_insert, if_neg hkey]

end Resolved

theorem exists_of_validator {known : List Category} {payload clean : Json} {partially : Bool}
    (h : validator known payload partially = .ok clean) :
    ∃ given resolved : Entries, payload = .object given ∧ clean = .object resolved ∧
      (fieldRules.errors given partially).isEmpty = true ∧
      resolveCategory known (fieldRules.clean given partially) = .ok resolved := by
  cases hvalidate : fieldRules.validate payload partially with
  | error errors =>
    simp only [validator, hvalidate] at h
    exact nomatch h
  | ok checked =>
    obtain ⟨given, rfl, herrors, rfl⟩ := FieldRules.exists_of_validate hvalidate
    simp only [validator, hvalidate] at h
    cases hresolved : resolveCategory known (fieldRules.clean given partially) with
    | error errors =>
      rw [hresolved] at h
      exact nomatch h
    | ok resolved =>
      rw [hresolved] at h
      exact ⟨given, resolved, rfl, (Except.ok.inj h).symm, herrors, hresolved⟩

/-- A payload that passes becomes an object with its keys in order, which holds the stock number
that the payload asks for as a text. -/
theorem clean_of_validator {known : List Category} {payload clean : Json} {partially : Bool}
    (h : validator known payload partially = .ok clean) :
    ∃ entries : Entries, clean = .object entries ∧ entries.Ascending ∧
      Entries.get? entries "sku" = (askedSku? payload).map .string ∧
      (partially = false → (askedSku? payload).isSome = true) := by
  obtain ⟨given, resolved, rfl, rfl, herrors, hresolved⟩ := exists_of_validator h
  obtain ⟨hsku, hwhole⟩ := get?_sku_clean herrors
  obtain ⟨hascending, hkeep⟩ := get?_of_resolveCategory hresolved FieldRules.ascending_clean
  exact ⟨resolved, rfl, hascending, (hkeep "sku" (by decide)).trans hsku, hwhole⟩

end RecordQuery.Catalog
