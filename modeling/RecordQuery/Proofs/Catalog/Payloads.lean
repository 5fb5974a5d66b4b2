import RecordQuery.Proofs.Catalog.Rules
import RecordQuery.Proofs.Catalog.Written

/-!
# Accepted payloads are read

The rules of a catalog and the reader of items are written apart. Laid over the entries of an item,
or over none where it is whole, an accepted payload is still read as an item, but for a category
given as an object: the rules leave it to the reader, whose complaint about it is then the one that
is made. An integer given for the stock is taken to have 63 bits, since the rules let 64 pass.
-/

namespace RecordQuery

/-- The problem with what was read, if there is one. -/
def Decode.problem? {α : Type} : Except DecodeError α → Option DecodeError
  | .ok _ => none
  | .error problem => some problem

namespace Catalog

/-- The complaint of the reader about a category that is given as an object. -/
def nestedProblem? (payload : Json) : Option DecodeError :=
  match payload.get? "category" with
  | some (.object entries) => Decode.problem? (Lineage.decode categoryForm (.object entries))
  | _ => none

def StockFits (payload : Json) : Prop :=
  ∀ n lower upper, payload.get? "stock" = some (.number (.integer n lower upper)) →
    n < 0x8000000000000000

namespace Item

def categoryField : Decode.FieldForm :=
  .defaulted "category" (Decode.optional (Lineage.decode categoryForm))

theorem mem_forms_id : .defaulted "id" Decode.unsigned ∈ forms := by simp [forms]

theorem mem_forms_category : categoryField ∈ forms := by simp [forms, categoryField]

theorem nodup_forms : (forms.map Decode.FieldForm.name).Nodup := by
  change ["id", "sku", "name", "price", "stock", "active", "created_at", "category",
    "tags"].Nodup
  decide

/-- An item is built of slots that are taken. -/
theorem exists_of_takes {slot : String → Option Json}
    (h : ∀ form ∈ forms, form.Takes (slot form.name)) : ∃ item, build slot = .ok item := by
  simp only [forms, List.forall_mem_cons, Decode.FieldForm.name_required,
    Decode.FieldForm.name_defaulted] at h
  obtain ⟨hid, hsku, hname, hprice, hstock, hactive, hcreated, hcategory, htags, _⟩ := h
  obtain ⟨id, hid⟩ := Decode.exists_of_takes_defaulted hid 0
  obtain ⟨sku, hsku⟩ := Decode.exists_of_takes_required hsku
  obtain ⟨name, hname⟩ := Decode.exists_of_takes_required hname
  obtain ⟨price, hprice⟩ := Decode.exists_of_takes_required hprice
  obtain ⟨stock, hstock⟩ := Decode.exists_of_takes_defaulted hstock 0
  obtain ⟨active, hactive⟩ := Decode.exists_of_takes_defaulted hactive false
  obtain ⟨createdAt, hcreated⟩ := Decode.exists_of_takes_defaulted hcreated ""
  obtain ⟨category, hcategory⟩ := Decode.exists_of_takes_defaulted hcategory none
  obtain ⟨tags, htags⟩ := Decode.exists_of_takes_defaulted htags []
  refine ⟨⟨id, sku, name, price, stock, active, createdAt, category, tags⟩, ?_⟩
  unfold build
  rw [hid, hsku, hname, hprice, hstock, hactive, hcreated, hcategory, htags]
  rfl

end Item

/-- The entries of an item with this number: the changes, and the rest from `base`. -/
def filled (base : Entries) (number : UInt64) (changes : Entries) : Entries :=
  Entries.insert "id" (.number (.ofUInt64 number)) (Entries.overlay base changes)

theorem get?_filled {changes : Entries} (h : changes.Ascending) (base : Entries) (number : UInt64)
    (key : String) : Entries.get? (filled base number changes) key =
      if key = "id" then some (.number (.ofUInt64 number))
      else (Entries.get? changes key).or (Entries.get? base key) := by
  rw [filled, Entries.get?_insert, Entries.get?_overlay h]

/-! ## What stands in an accepted payload -/

section Accepted

variable {known : List Category} {given resolved : Entries} {partially : Bool}
variable (herrors : (fieldRules.errors given partially).isEmpty = true)
variable (hresolved : resolveCategory known (fieldRules.clean given partially) = .ok resolved)

theorem mem_fields_id : (⟨"id", .integer⟩ : Field) ∈ fieldRules.schema.fields := by
  simp [fieldRules, Item.schema]

theorem mem_fields_stock : (⟨"stock", .integer⟩ : Field) ∈ fieldRules.schema.fields := by
  simp [fieldRules, Item.schema]

theorem mem_fields_category :
    (⟨"category", .relation "Category"⟩ : Field) ∈ fieldRules.schema.fields := by
  simp [fieldRules, Item.schema]

theorem mem_fields_tags : (⟨"tags", .relation "Tag"⟩ : Field) ∈ fieldRules.schema.fields := by
  simp [fieldRules, Item.schema]

section Resolved

include hresolved

theorem exists_of_get?_resolved {field : Field} (hfield : field ∈ fieldRules.schema.fields)
    (hne : field.name ≠ "category") {value : Json}
    (h : Entries.get? resolved field.name = some value) :
    ∃ raw, Entries.get? given field.name = some raw ∧ fieldRules.check field raw = .ok value := by
  obtain ⟨_, hkeep⟩ := get?_of_resolveCategory hresolved FieldRules.ascending_clean
  rw [hkeep _ hne] at h
  exact FieldRules.exists_of_get?_clean nodup_fields hfield h

theorem holds_of_resolved {field : Field} (hfield : field ∈ fieldRules.schema.fields)
    (hne : field.name ≠ "category") {value : Json}
    (h : Entries.get? resolved field.name = some value) : field.type.Holds value := by
  obtain ⟨raw, _, hcheck⟩ := exists_of_get?_resolved hresolved hfield hne h
  rcases FieldRules.holds_of_check hcheck with ⟨_, hnullable⟩ | hholds
  · exact absurd hnullable (by simp [fieldRules, hne])
  · exact hholds

theorem get?_resolved_of_readOnly {field : Field} (hfield : field ∈ fieldRules.schema.fields)
    (hreadOnly : fieldRules.readOnly.contains field.name = true) :
    Entries.get? resolved field.name = none := by
  obtain ⟨_, hkeep⟩ := get?_of_resolveCategory hresolved FieldRules.ascending_clean
  have hne : field.name ≠ "category" := by
    intro heq
    rw [heq] at hreadOnly
    exact absurd hreadOnly (by decide)
  rw [hkeep _ hne]
  exact FieldRules.get?_clean_of_readOnly nodup_fields hfield hreadOnly

/-- The stock is what the payload holds or a number of 63 bits that was read from a text. -/
theorem exists_signed_of_resolved (hfits : StockFits (.object given)) {value : Json}
    (h : Entries.get? resolved "stock" = some value) : ∃ n, Decode.signed value = .ok n := by
  obtain ⟨raw, hraw, hcheck⟩ := exists_of_get?_resolved hresolved mem_fields_stock (by decide) h
  have hchecked : FieldRules.checkInteger raw = .ok value := by
    cases hnull : raw.isNull with
    | true =>
      obtain ⟨_, hnullable⟩ := FieldRules.check_of_isNull hcheck hnull
      exact absurd hnullable (by decide)
    | false =>
      simp only [FieldRules.check, hnull, Bool.false_eq_true, if_false] at hcheck
      exact hcheck
  rcases FieldRules.eq_or_of_checkInteger hchecked with ⟨rfl, n, lower, upper, rfl⟩ | ⟨n, rfl⟩
  · have hlt := hfits n lower upper hraw
    exact ⟨Int64.ofInt n, by rw [Decode.signed, if_pos hlt]⟩
  · exact ⟨n, Decode.signed_ofInt64 n⟩

/-- Every value of an accepted payload, the category apart, is read as the field wants it. -/
theorem check_of_resolved (hfits : StockFits (.object given)) : ∀ form ∈ Item.forms,
    form.name ≠ "category" → ∀ value, Entries.get? resolved form.name = some value →
      form.check value = .ok () := by
  have hfields : ∀ field ∈ Item.schema.fields, field.name ≠ "category" →
      ∀ value, Entries.get? resolved field.name = some value → field.type.Holds value :=
    fun field hfield hne value => holds_of_resolved hresolved hfield hne
  simp only [Item.schema, List.forall_mem_cons] at hfields
  obtain ⟨_, hsku, hname, hprice, _, hactive, hcreated, _⟩ := hfields
  simp only [Item.forms, List.forall_mem_cons]
  refine ⟨?id, ?sku, ?name, ?price, ?stock, ?active, ?createdAt, ?category, ?tags, ?none⟩
  case id =>
    intro _ value hvalue
    have hnone := get?_resolved_of_readOnly hresolved mem_fields_id (by decide)
    exact absurd (hvalue.symm.trans hnone) (by simp)
  case sku =>
    intro hne value hvalue
    cases hsku hne value hvalue with
    | text s => exact Decode.check_required rfl
  case name =>
    intro hne value hvalue
    cases hname hne value hvalue with
    | text s => exact Decode.check_required rfl
  case price =>
    intro hne value hvalue
    cases hprice hne value hvalue with
    | float n => cases n <;> exact Decode.check_required rfl
  case stock =>
    intro _ value hvalue
    obtain ⟨n, hn⟩ := exists_signed_of_resolved hresolved hfits hvalue
    exact Decode.check_defaulted hn
  case active =>
    intro hne value hvalue
    cases hactive hne value hvalue with
    | boolean b => exact Decode.check_defaulted rfl
  case createdAt =>
    intro hne value hvalue
    cases hcreated hne value hvalue with
    | datetime s => exact Decode.check_defaulted rfl
  case category => exact fun hne => absurd rfl hne
  case tags =>
    intro _ value hvalue
    have hnone := get?_resolved_of_readOnly hresolved mem_fields_tags (by decide)
    exact absurd (hvalue.symm.trans hnone) (by simp)
  case none => exact List.forall_mem_nil _

end Resolved

/-! ## The category -/

theorem nestedProblem?_eq_none {payload : Json}
    (h : ∀ entries, payload.get? "category" ≠ some (.object entries)) :
    nestedProblem? payload = none := by
  unfold nestedProblem?
  split
  · rename_i entries heq
    exact absurd heq (h entries)
  · rfl

theorem check_nested {payload : Json} {entries : Entries}
    (h : payload.get? "category" = some (.object entries)) :
    Item.categoryField.check (.object entries) =
      match nestedProblem? payload with
      | none => .ok ()
      | some problem => .error problem := by
  have hcheck : Item.categoryField.check (.object entries) =
      ((Lineage.decode categoryForm (.object entries)).map some).map fun _ => () := rfl
  rw [nestedProblem?, h, hcheck]
  dsimp only
  cases Lineage.decode categoryForm (.object entries) <;> rfl

inductive CategoryRead (payload : Json) : Option Json → Prop where
  | taken {slot : Option Json} (hnone : nestedProblem? payload = none)
      (h : Item.categoryField.Takes slot) : CategoryRead payload slot
  | refused {problem : DecodeError} {value : Json}
      (hproblem : nestedProblem? payload = some problem)
      (h : Item.categoryField.check value = .error problem) : CategoryRead payload (some value)

/-- A category that is no key stands for itself: it is null or an object. -/
theorem categoryRead_of_value {payload value : Json} {target : String}
    (hvalue : payload.get? "category" = some value) (hkey : categoryKey? value = none)
    (hkind : value = .null ∨ (FieldType.relation target).Holds value) :
    CategoryRead payload (some value) := by
  rcases hkind with rfl | hholds
  · exact .taken (nestedProblem?_eq_none (by simp [hvalue])) (.value rfl)
  · cases hholds with
    | key | keyText => exact nomatch hkey
    | nested =>
      have hcheck := check_nested hvalue
      cases hproblem : nestedProblem? payload with
      | none =>
        rw [hproblem] at hcheck
        exact .taken hproblem (.value hcheck)
      | some problem =>
        rw [hproblem] at hcheck
        exact .refused hproblem hcheck

include herrors hresolved

/-- The category of an accepted payload is taken, unless it is an object that the reader complains
about. -/
theorem categoryRead_resolved :
    CategoryRead (.object given) (Entries.get? resolved "category") := by
  have hpasses := FieldRules.passes_of_isEmpty_errors herrors mem_fields_category
  have hclean : Entries.get? (fieldRules.clean given partially) "category" =
      (Json.object given).get? "category" :=
    FieldRules.get?_clean_relation nodup_fields mem_fields_category rfl (by decide) hpasses
  rcases resolveCategory_cases hresolved with ⟨hkey, rfl⟩ | ⟨raw, category, hkey, _, rfl⟩
  · cases hvalue : Entries.get? (fieldRules.clean given partially) "category" with
    | none =>
      rw [hclean] at hvalue
      exact .taken (nestedProblem?_eq_none (by simp [hvalue])) (.absent rfl)
    | some value =>
      obtain ⟨_, _, hcheck⟩ := FieldRules.exists_of_get?_clean nodup_fields mem_fields_category
        hvalue
      rw [hvalue] at hkey
      rw [hclean] at hvalue
      exact categoryRead_of_value hvalue hkey ((FieldRules.holds_of_check hcheck).imp_left And.left)
  · rw [Entries.get?_insert, if_pos rfl]
    refine .taken (nestedProblem?_eq_none ?_)
      (.value (Decode.check_defaulted (optional_category (some category))))
    intro entries hobject
    rw [hclean, hobject] at hkey
    exact nomatch hkey

/-! ## The item -/

variable {base : Entries} (hfits : StockFits (.object given))
variable (hrest : ∀ form ∈ Item.forms, form.name ≠ "id" → Entries.get? resolved form.name = none →
  form.Takes (Entries.get? base form.name))
include hfits hrest

omit herrors in
theorem takes_filled {form : Decode.FieldForm} (hform : form ∈ Item.forms)
    (hcategory : form.name = "category" → form.Takes (Entries.get? resolved "category"))
    (number : UInt64) : form.Takes (Entries.get? (filled base number resolved) form.name) := by
  obtain ⟨hascending, _⟩ := get?_of_resolveCategory hresolved FieldRules.ascending_clean
  rw [get?_filled hascending]
  split
  · rename_i hid
    obtain rfl := Decode.eq_of_name_eq Item.nodup_forms hform Item.mem_forms_id hid
    exact .value (Decode.check_defaulted (Decode.unsigned_ofUInt64 number))
  · rename_i hid
    cases hvalue : Entries.get? resolved form.name with
    | none => exact hrest form hform hid hvalue
    | some value =>
      by_cases hname : form.name = "category"
      · have htaken := hcategory hname
        rw [← hname, hvalue] at htaken
        exact htaken
      · exact .value (check_of_resolved hresolved hfits form hform hname value hvalue)

/-- An accepted payload, laid over entries that fill in what it leaves out, is read as an item, or
refused for its category alone. -/
theorem problem?_decode_filled (hbase : base.Ascending) (number : UInt64) :
    Decode.problem? (Item.decode (.object (filled base number resolved))) =
      nestedProblem? (.object given) := by
  have hascending : (filled base number resolved).Ascending := (hbase.overlay resolved).insert _ _
  have hread := categoryRead_resolved herrors hresolved
  generalize hvalue : Entries.get? resolved "category" = slot at hread
  cases hread with
  | taken hnone htaken =>
    have htakes : ∀ form ∈ Item.forms,
        form.Takes (Entries.get? (filled base number resolved) form.name) := by
      intro form hform
      apply takes_filled hresolved hfits hrest hform
      intro hname
      obtain rfl := Decode.eq_of_name_eq Item.nodup_forms hform Item.mem_forms_category hname
      rw [hvalue]
      exact htaken
    obtain ⟨item, hitem⟩ := Item.exists_of_takes htakes
    rw [Item.decode, Decode.record_of_takes hascending htakes, hitem, hnone]
    rfl
  | @refused problem value hproblem hfails =>
    have hslot : Entries.get? (filled base number resolved) "category" = some value := by
      obtain ⟨hresolvedAscending, _⟩ :=
        get?_of_resolveCategory hresolved FieldRules.ascending_clean
      rw [get?_filled hresolvedAscending, if_neg (by decide), hvalue, Option.some_or]
    have hothers : ∀ form ∈ Item.forms, form.name ≠ "category" →
        form.Takes (Entries.get? (filled base number resolved) form.name) := by
      intro form hform hne
      apply takes_filled hresolved hfits hrest hform
      intro hname
      exact absurd hname hne
    rw [Item.decode, Decode.record_of_failing hascending Item.nodup_forms Item.mem_forms_category
      hslot hfails hothers, hproblem]
    rfl

end Accepted

section Whole

variable {known : List Category} {given resolved : Entries}
variable (herrors : (fieldRules.errors given false).isEmpty = true)
variable (hresolved : resolveCategory known (fieldRules.clean given false) = .ok resolved)
include herrors hresolved

theorem isSome_of_required {field : Field} (hfield : field ∈ fieldRules.schema.fields)
    (hrequired : fieldRules.required.contains field.name = true) :
    (Entries.get? resolved field.name).isSome = true := by
  obtain ⟨_, hkeep⟩ := get?_of_resolveCategory hresolved FieldRules.ascending_clean
  have hfree : ∀ name ∈ fieldRules.required,
      fieldRules.readOnly.contains name = false ∧ name ≠ "category" := by decide
  obtain ⟨hwritable, hne⟩ := hfree _ (List.contains_iff_mem.mp hrequired)
  rw [hkeep _ hne]
  exact FieldRules.isSome_get?_clean nodup_fields hfield hwritable hrequired
    (FieldRules.passes_of_isEmpty_errors herrors hfield)

theorem optional_of_absent : ∀ form ∈ Item.forms, Entries.get? resolved form.name = none →
    form.optional = true := by
  have hpresent : ∀ field ∈ fieldRules.schema.fields,
      fieldRules.required.contains field.name = true →
      Entries.get? resolved field.name ≠ none := by
    intro field hfield hrequired hnone
    have hsome := isSome_of_required herrors hresolved hfield hrequired
    rw [hnone] at hsome
    exact nomatch hsome
  simp only [fieldRules, Item.schema, List.forall_mem_cons] at hpresent
  obtain ⟨_, hsku, hname, hprice, _⟩ := hpresent
  simp only [Item.forms, List.forall_mem_cons]
  exact ⟨fun _ => rfl, fun hnone => absurd hnone (hsku (by decide)),
    fun hnone => absurd hnone (hname (by decide)), fun hnone => absurd hnone (hprice (by decide)),
    fun _ => rfl, fun _ => rfl, fun _ => rfl, fun _ => rfl, fun _ => rfl, List.forall_mem_nil _⟩

end Whole

theorem takes_current {current : Item} (h : current.Priced) : ∀ form ∈ Item.forms,
    form.name ≠ "id" → form.Takes (Entries.get? current.entries.sorted form.name) := by
  obtain ⟨x, hprice⟩ := h
  intro form hform hne
  have htakes := (current.slots_stamped current.id).takes hprice form hform
  rw [Entries.get?_insert, if_neg hne] at htakes
  exact htakes

section Base

variable {known : List Category} {payload clean : Json} (hfits : StockFits payload)
include hfits

/-- An accepted whole payload needs nothing to be filled in. -/
theorem reads_whole (haccepted : validator known payload false = .ok clean) (number : UInt64) :
    ∃ changes sku, clean = .object changes ∧ Entries.overlay [] changes = changes ∧
      askedSku? payload = some sku ∧
      Entries.get? (filled [] number changes) "sku" = some (.string sku) ∧
      Decode.problem? (Item.decode (.object (filled [] number changes))) =
        nestedProblem? payload := by
  obtain ⟨given, resolved, rfl, rfl, herrors, hresolved⟩ := exists_of_validator haccepted
  obtain ⟨_, heq, hascending, hentries, hwhole⟩ := clean_of_validator haccepted
  obtain rfl := Json.object.inj heq
  obtain ⟨sku, hasked⟩ := Option.isSome_iff_exists.mp (hwhole rfl)
  refine ⟨resolved, sku, rfl, Entries.sorted_of_ascending hascending, hasked, ?_, ?_⟩
  · rw [get?_filled hascending, if_neg (by decide), hentries, hasked]
    rfl
  · have hrest : ∀ form ∈ Item.forms, form.name ≠ "id" →
        Entries.get? resolved form.name = none → form.Takes (Entries.get? [] form.name) := by
      intro form hform _ hnone
      exact .absent (optional_of_absent herrors hresolved form hform hnone)
    exact problem?_decode_filled herrors hresolved hfits hrest List.Pairwise.nil number

/-- An accepted payload, whole or not, is filled in by the item that it changes. -/
theorem reads_changed {partially : Bool} (haccepted : validator known payload partially = .ok clean)
    {current : Item} (hpriced : current.Priced) (number : UInt64) :
    ∃ changes, clean = .object changes ∧
      Entries.get? (filled current.entries.sorted number changes) "sku" =
        some (.string ((askedSku? payload).getD current.sku)) ∧
      Decode.problem? (Item.decode (.object (filled current.entries.sorted number changes))) =
        nestedProblem? payload := by
  obtain ⟨given, resolved, rfl, rfl, herrors, hresolved⟩ := exists_of_validator haccepted
  obtain ⟨_, heq, hascending, hentries, _⟩ := clean_of_validator haccepted
  obtain rfl := Json.object.inj heq
  refine ⟨resolved, rfl, ?_, ?_⟩
  · have hslot : Entries.get? current.entries.sorted "sku" = some (.string current.sku) :=
      current.get?_sku_encode
    rw [get?_filled hascending, if_neg (by decide), hentries, hslot]
    cases askedSku? (.object given) <;> rfl
  · have hrest : ∀ form ∈ Item.forms, form.name ≠ "id" →
        Entries.get? resolved form.name = none →
        form.Takes (Entries.get? current.entries.sorted form.name) := by
      intro form hform hne _
      exact takes_current hpriced form hform hne
    exact problem?_decode_filled herrors hresolved hfits hrest (Entries.ascending_sorted _) number

end Base

end Catalog

end RecordQuery
