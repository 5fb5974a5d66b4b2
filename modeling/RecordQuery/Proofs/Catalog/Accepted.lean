import RecordQuery.Proofs.Catalog.Payloads
import RecordQuery.Proofs.Catalog.Reload
import RecordQuery.Proofs.Catalog.StockNumbers

/-!
# Accepted payloads are written

A payload that a catalog accepts is stored, unless another item has its stock number or its category
is an object that cannot be read. This holds of every catalog that requests lead to, whatever
numbers its items have.
-/

namespace RecordQuery

namespace Catalog

/-! ## Catalogs that requests lead to -/

inductive Arises [RegexLibrary] (items : List Item) (settings : Settings) : Catalog → Prop where
  | built {catalog : Catalog} (hbuilt : ofItems items settings = .ok catalog) :
      Arises items settings catalog
  | handled {catalog : Catalog} (harises : Arises items settings catalog) (request : Request) :
      Arises items settings (catalog.after request)

/-- What requests keep of a catalog, whatever numbers its items have. -/
structure Steady (items : List Item) (settings : Settings) (catalog : Catalog) : Prop where
  endpoint_eq : catalog.endpoint = endpointOf (categories items) settings
  idField_eq : catalog.table.idField = "id"
  unique_eq : catalog.table.unique = ["sku"]
  priced : catalog.IsPriced

variable {items : List Item} {settings : Settings} {catalog : Catalog}

theorem Steady.store_eq (h : Steady items settings catalog) :
    catalog.endpoint.store = Table.store Item := by
  rw [h.endpoint_eq]
  rfl

theorem Steady.of_ofItems (hbuilt : ofItems items settings = .ok catalog) :
    Steady items settings catalog := by
  have hpriced := isPriced_of_ofItems hbuilt
  obtain ⟨table, hfilled, rfl⟩ := filled_of_ofItems hbuilt
  obtain ⟨hidField, hunique⟩ := Table.fields_insertAll hfilled
  exact ⟨rfl, hidField, congrArg (· ++ ["sku"]) hunique, hpriced⟩

theorem Steady.after [RegexLibrary] (h : Steady items settings catalog) (request : Request) :
    Steady items settings (catalog.after request) := by
  obtain ⟨call, hmakes, _, _⟩ :=
    (Endpoint.effect_handle h.store_eq request catalog.table).makes
  obtain ⟨hidField, hunique⟩ := hmakes.fields
  exact ⟨h.endpoint_eq, hidField.trans h.idField_eq, hunique.trans h.unique_eq,
    hmakes.forall_records (fun _ _ => Item.priced_of_decode) h.priced⟩

theorem Arises.steady [RegexLibrary] (h : Arises items settings catalog) :
    Steady items settings catalog := by
  induction h with
  | built hbuilt => exact .of_ofItems hbuilt
  | handled _ request ih => exact ih.after request

/-! ## What a write comes to -/

/-- What a write under a number comes to. The stock number is held against those of the other items
before the payload is read. -/
inductive Comes (problem? : Option DecodeError) (table : Table Item) (number : UInt64)
    (sku : String) : Except StoreError Item → Prop where
  | stored {item : Item} (hfree : ∀ row ∈ table.rows, row.1 ≠ number → row.2.sku ≠ sku)
      (hread : problem? = none) (hsku : item.sku = sku) : Comes problem? table number sku (.ok item)
  | taken {row : UInt64 × Item} (hrow : row ∈ table.rows) (hother : row.1 ≠ number)
      (hsku : row.2.sku = sku) :
      Comes problem? table number sku (.error (.constraint (Table.conflictDetail Item "sku")))
  | unread {problem : DecodeError}
      (hfree : ∀ row ∈ table.rows, row.1 ≠ number → row.2.sku ≠ sku)
      (hproblem : problem? = some problem) :
      Comes problem? table number sku (.error (.validation (.whole problem.message)))

section Write

variable {table : Table Item} (hidField : table.idField = "id") (hunique : table.unique = ["sku"])
include hidField hunique

theorem comes_materialize {base changes : Entries} {number : UInt64} {sku : String}
    (hsku : Entries.get? (filled base number changes) "sku" = some (.string sku)) :
    Comes (Decode.problem? (Item.decode (.object (filled base number changes)))) table number sku
      (table.materialize number (Entries.overlay base changes)) := by
  have hentries : Entries.insert table.idField (.number (.ofUInt64 number))
      (Entries.overlay base changes) = filled base number changes := by
    rw [hidField]
    rfl
  have hconflict : table.conflict? number (filled base number changes) ≠ none ↔ _ :=
    conflict_sku_iff hunique hsku
  unfold Table.materialize
  dsimp only
  rw [hentries]
  split
  · rename_i field hfield
    have hname : field = "sku" := by
      have hmem := List.mem_of_find?_eq_some hfield
      rw [hunique] at hmem
      exact List.mem_singleton.mp hmem
    subst hname
    obtain ⟨row, hrow, hother, hsame⟩ := hconflict.mp (by simp [hfield])
    exact .taken hrow hother hsame
  · rename_i hnone
    have hfree : ∀ row ∈ table.rows, row.1 ≠ number → row.2.sku ≠ sku := by
      intro row hrow hother hsame
      exact hconflict.mpr ⟨row, hrow, hother, hsame⟩ hnone
    split
    · rename_i item hread
      have hitem := Item.get?_sku_of_decode hread
      rw [hsku] at hitem
      refine .stored hfree ?_ (Json.string.inj (Option.some.inj hitem)).symm
      exact congrArg Decode.problem? hread
    · rename_i problem hread
      exact .unread hfree (congrArg Decode.problem? hread)

end Write

section Verdict

variable (h : Steady items settings catalog) {payload clean : Json} {partially : Bool}
variable (hfits : StockFits payload)
include h hfits

theorem Steady.comes_create (haccepted : catalog.endpoint.validate payload false = .ok clean) :
    ∃ sku, askedSku? payload = some sku ∧
      Comes (nestedProblem? payload) catalog.table catalog.table.nextId sku
        (Table.create clean catalog.table).1 := by
  rw [h.endpoint_eq] at haccepted
  obtain ⟨changes, sku, rfl, hchanges, hasked, hsku, hreads⟩ :=
    reads_whole hfits haccepted catalog.table.nextId
  refine ⟨sku, hasked, ?_⟩
  have hcomes := comes_materialize h.idField_eq h.unique_eq hsku
  rw [hreads, hchanges] at hcomes
  rw [Table.create_fst]
  exact hcomes

theorem Steady.comes_update (haccepted : catalog.endpoint.validate payload partially = .ok clean)
    {id : UInt64} {current : Item} (hfind : catalog.table.find id = some current) :
    Comes (nestedProblem? payload) catalog.table id ((askedSku? payload).getD current.sku)
      (Table.update id clean catalog.table).1 := by
  rw [h.endpoint_eq] at haccepted
  have hpriced : current.Priced := h.priced _ (Rows.mem_of_get? hfind)
  obtain ⟨changes, rfl, hsku, hreads⟩ := reads_changed hfits haccepted hpriced id
  have hobject : Storable.encode current = .object current.entries.sorted := rfl
  rw [Table.update_fst hfind hobject, ← hreads]
  exact comes_materialize h.idField_eq h.unique_eq hsku

end Verdict

/-! ## What the client is told -/

theorem complaint_of_comes {problem? : Option DecodeError} {table : Table Item} {number : UInt64}
    {sku : String} {result : Except StoreError Item}
    (h : Comes problem? table number sku result) {success : Json → Response}
    (hsuccess : ∀ body, (success body).body = some body) {operation : Operation}
    (hwhole : (Endpoint.written operation success result).field? FieldErrors.wholePayload ≠ none) :
    ∃ problem, problem? = some problem ∧
      Endpoint.written operation success result = .validation (.whole problem.message) := by
  cases h with
  | @stored item =>
    have hbody : (success item.encode).field? FieldErrors.wholePayload =
        item.encode.get? FieldErrors.wholePayload := by
      rw [Response.field?, hsuccess]
      rfl
    have habsent : FieldErrors.wholePayload ∉ item.entries.map Prod.fst := by
      change "non_field_errors" ∉ ["id", "sku", "name", "price", "stock", "active", "created_at",
        "category", "tags"]
      decide
    exact absurd (hbody.trans (Entries.get?_overlay_of_absent habsent [])) hwhole
  | taken => exact absurd rfl hwhole
  | unread _ hproblem => exact ⟨_, hproblem, rfl⟩

section Client

variable [RegexLibrary]
variable (h : Steady items settings catalog) {payload clean : Json} {partially : Bool}
variable (hfits : StockFits payload)
include h hfits

theorem Steady.complaint_create (haccepted : catalog.endpoint.validate payload false = .ok clean)
    (hwhole : (catalog.answer (.create payload)).field? FieldErrors.wholePayload ≠ none) :
    ∃ problem, nestedProblem? payload = some problem ∧
      catalog.answer (.create payload) = .validation (.whole problem.message) := by
  obtain ⟨hresponse, _⟩ := Endpoint.create_of_clean h.store_eq haccepted catalog.table
  have hanswer : catalog.answer (.create payload) = _ := hresponse
  obtain ⟨sku, _, hcomes⟩ := h.comes_create hfits haccepted
  rw [hanswer] at hwhole ⊢
  exact complaint_of_comes hcomes (fun _ => rfl) hwhole

theorem Steady.complaint_update
    (haccepted : catalog.endpoint.validate payload partially = .ok clean) {raw : String}
    (hwhole : (catalog.answer (.update raw payload partially)).field? FieldErrors.wholePayload ≠
      none) :
    ∃ problem, nestedProblem? payload = some problem ∧
      catalog.answer (.update raw payload partially) = .validation (.whole problem.message) := by
  have hanswer : catalog.answer (.update raw payload partially) =
      (catalog.endpoint.updateWith raw payload [] partially catalog.table).response := by
    rw [answer, Endpoint.handle_update]
  rw [hanswer] at hwhole ⊢
  cases hid : catalog.endpoint.store.parseId? raw with
  | none =>
    obtain ⟨hresponse, _⟩ := Endpoint.withId_of_nameless hid _ _ catalog.table
    rw [Endpoint.updateWith, hresponse] at hwhole
    exact absurd rfl hwhole
  | some id =>
    cases hfind : catalog.table.find id with
    | none =>
      obtain ⟨hresponse, _⟩ := Endpoint.updateWith_of_missing h.store_eq hid hfind
      rw [hresponse] at hwhole
      exact absurd rfl hwhole
    | some current =>
      obtain ⟨hresponse, _⟩ := Endpoint.updateWith_of_clean h.store_eq hid hfind haccepted
      rw [hresponse] at hwhole ⊢
      exact complaint_of_comes (h.comes_update hfits haccepted hfind) (fun _ => rfl) hwhole

end Client

/-- What becomes of an accepted payload. Written to the table it is stored, held back for its stock
number where another item has it, or refused for a category that is an object and cannot be read;
there is no other outcome. A client is told that a payload as a whole is wrong only in the last
case, and then what is wrong with the category. -/
theorem accepted_payloads_are_written [RegexLibrary] (h : Arises items settings catalog)
    {payload clean : Json} {partially : Bool}
    (haccepted : catalog.endpoint.validate payload partially = .ok clean)
    (hfits : StockFits payload) :
    let problem? := nestedProblem? payload
    let table := catalog.table
    (partially = false → Table.Reports table table.nextId (Table.create clean table) ∧
      ∃ sku, askedSku? payload = some sku ∧
        Comes problem? table table.nextId sku (Table.create clean table).1) ∧
    (∀ id current, table.find id = some current →
      Table.Reports table id (Table.update id clean table) ∧
      Comes problem? table id ((askedSku? payload).getD current.sku)
        (Table.update id clean table).1) ∧
    ∀ request, (request = .create payload ∧ partially = false ∨
        ∃ raw, request = .update raw payload partially) →
      (catalog.answer request).field? FieldErrors.wholePayload ≠ none →
      ∃ problem, problem? = some problem ∧
        catalog.answer request = .validation (.whole problem.message) := by
  intro problem? table
  have hsteady := h.steady
  refine ⟨?create, ?update, ?client⟩
  case create =>
    rintro rfl
    exact ⟨Table.reports_create clean table, hsteady.comes_create hfits haccepted⟩
  case update =>
    intro id current hfind
    exact ⟨Table.reports_update id clean table, hsteady.comes_update hfits haccepted hfind⟩
  case client =>
    rintro request (⟨rfl, rfl⟩ | ⟨raw, rfl⟩) hwhole
    · exact hsteady.complaint_create hfits haccepted hwhole
    · exact hsteady.complaint_update hfits haccepted hwhole

/-- A part whose category is given as an object is stored beside another part. -/
theorem accepted_payloads_are_written_of_nested_category :
    letI : RegexLibrary := .permissive
    let items := [sparePart 1 "A-1"]
    let catalog : Catalog := ⟨endpointOf (categories items) .standard,
      (Table.insertAll items Table.empty).2.withUnique "sku"⟩
    let category : Json := .object [("id", .ofInt 7), ("name", .string "Tools")]
    let payload : Json := .object [("category", category), ("name", .string "spare part"),
      ("price", .string "5"), ("sku", .ofInt 12), ("stock", .string "3")]
    Arises items .standard catalog ∧ StockFits payload ∧
      ∃ clean item, catalog.endpoint.validate payload false = .ok clean ∧
        (Table.create clean catalog.table).1 = .ok item ∧ item.sku = "12" ∧
        (Table.create clean catalog.table).2.find catalog.table.nextId = some item := by
  let : RegexLibrary := .permissive
  intro items catalog category payload
  have hfilled : (Table.insertAll items Table.empty).1 = .ok () := by decide +kernel
  have harises : Arises items .standard catalog := .built (ofItems_of_filled hfilled .standard)
  have hfits : StockFits payload := by
    intro n lower upper hstock
    exact nomatch hstock
  have hpasses : (catalog.endpoint.validate payload false).isOk = true := by decide +kernel
  have hreads : nestedProblem? payload = none := by decide
  have hasked : askedSku? payload = some "12" := by decide
  have hfree : ∀ row ∈ catalog.table.rows, row.2.sku ≠ "12" := by decide +kernel
  refine ⟨harises, hfits, ?_⟩
  obtain ⟨clean, hclean⟩ := exists_clean_of_isOk hpasses
  obtain ⟨hcreate, _, _⟩ := accepted_payloads_are_written harises hclean hfits
  obtain ⟨hreports, sku, hsku, hcomes⟩ := hcreate rfl
  obtain rfl := Option.some.inj (hasked.symm.trans hsku)
  cases hcreated : Table.create clean catalog.table with
  | mk result after =>
    rw [hcreated] at hcomes hreports
    cases hcomes with
    | @stored item _ _ hitem =>
      refine ⟨clean, item, hclean, ?_, hitem, ?_⟩
      · rw [hcreated]
      · rw [hcreated]
        exact hreports
    | taken hrow _ hheld => exact absurd hheld (hfree _ hrow)
    | unread _ hproblem => exact absurd (hproblem.symm.trans hreads) (by simp)

/-- A category that is given as an object without a name is accepted and cannot be read. -/
theorem nested_category_unread :
    letI : RegexLibrary := .permissive
    let catalog : Catalog := ⟨endpointOf [] .standard, Table.empty.withUnique "sku"⟩
    let payload : Json := .object [("category", .object [("id", .ofInt 7)]),
      ("name", .string "spare part"), ("price", .ofInt 5), ("sku", .string "A-1")]
    Arises [] .standard catalog ∧
      ∃ clean, catalog.endpoint.validate payload false = .ok clean ∧
        (Table.create clean catalog.table).1 =
          .error (.validation (.whole "missing field `name`")) ∧
        catalog.answer (.create payload) = .validation (.whole "missing field `name`") := by
  let : RegexLibrary := .permissive
  intro catalog payload
  have harises : Arises [] .standard catalog := .built rfl
  have hfits : StockFits payload := by
    intro n lower upper hstock
    exact nomatch hstock
  have hpasses : (catalog.endpoint.validate payload false).isOk = true := by decide
  have hproblem : nestedProblem? payload = some (.missingField "name") := by decide
  refine ⟨harises, ?_⟩
  obtain ⟨clean, hclean⟩ := exists_clean_of_isOk hpasses
  obtain ⟨sku, _, hcomes⟩ := harises.steady.comes_create hfits hclean
  have hrefused : (Table.create clean catalog.table).1 =
      .error (.validation (.whole "missing field `name`")) := by
    cases hresult : (Table.create clean catalog.table).1 with
    | ok item =>
      rw [hresult] at hcomes
      cases hcomes with
      | stored _ hread => exact absurd (hproblem.symm.trans hread) (by simp)
    | error failure =>
      rw [hresult] at hcomes
      cases hcomes with
      | taken hrow => exact absurd hrow List.not_mem_nil
      | unread _ hfound =>
        obtain rfl := Option.some.inj (hproblem.symm.trans hfound)
        rfl
  obtain ⟨hresponse, _⟩ :=
    Endpoint.create_of_clean harises.steady.store_eq hclean catalog.table
  refine ⟨clean, hclean, hrefused, ?_⟩
  have hanswer : catalog.answer (.create payload) = _ := hresponse
  rw [hanswer, hrefused]
  rfl

end Catalog

end RecordQuery
