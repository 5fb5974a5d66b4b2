import RecordQuery.Proofs.Catalog.Reached
import RecordQuery.Proofs.Catalog.Rules
import RecordQuery.Proofs.Store.Uniqueness

/-!
# Stock numbers

No two items of a catalog have the same stock number if it starts with such items, and a write is
held back for its stock number exactly where another item has it. Unlike in other tables, what is
checked of an item is what is stored: its stock number passes the check as the text that it is read
as.
-/

namespace RecordQuery

namespace Catalog

open Table (Distinct)

variable {table : Table Item} {id : UInt64}

/-! ## Stock numbers that are taken -/

theorem isTaken_sku_iff {sku : String} :
    table.isTaken id "sku" (.string sku) = true ↔
      ∃ row ∈ table.rows, row.1 ≠ id ∧ row.2.sku = sku := by
  rw [Table.isTaken_iff]
  refine exists_congr fun row => and_congr_right fun _ => and_congr_right fun _ => ?_
  change (∃ value, row.2.encode.get? "sku" = some value ∧ _) ↔ _
  rw [row.2.get?_sku_encode]
  constructor
  · rintro ⟨value, hvalue, hsame⟩
    obtain rfl := Option.some.inj hvalue
    exact eq_of_beq hsame
  · rintro rfl
    exact ⟨_, rfl, beq_self_eq_true _⟩

section Unique

variable (hunique : table.unique = ["sku"])
include hunique

theorem conflict_sku_iff {entries : Entries} {sku : String}
    (hsku : Entries.get? entries "sku" = some (.string sku)) :
    table.conflict? id entries ≠ none ↔ ∃ row ∈ table.rows, row.1 ≠ id ∧ row.2.sku = sku := by
  rw [← isTaken_sku_iff, Ne, Table.conflict?_eq_none_iff, hunique]
  constructor
  · intro hnot
    cases htaken : table.isTaken id "sku" (.string sku) with
    | true => rfl
    | false =>
      refine absurd (fun field hfield wanted hwanted _ => ?_) hnot
      obtain rfl := List.mem_singleton.mp hfield
      obtain rfl := Option.some.inj (hsku.symm.trans hwanted)
      exact htaken
  · intro htaken hfree
    have hnot := hfree "sku" (List.mem_singleton_self _) _ hsku rfl
    exact absurd (htaken.symm.trans hnot) (by simp)

theorem not_slips (call : Table.Call Item) : ¬ Table.Call.Slips table call := by
  rintro ⟨id, entries, item, hwrites, field, hfield, value, hvalue, _, _, hnone⟩
  rw [hunique] at hfield
  obtain rfl := List.mem_singleton.mp hfield
  obtain ⟨_, hread⟩ := Table.materialize_eq_ok_iff.mp hwrites.materialize
  have hchecked := hnone _ (Item.get?_sku_of_decode hread)
  obtain rfl := Option.some.inj (item.get?_sku_encode.symm.trans hvalue)
  exact absurd hchecked (by simp [Json.same])

theorem sku_ne_of_distinct (h : table.Distinct) {a b : UInt64 × Item} (ha : a ∈ table.rows)
    (hb : b ∈ table.rows) (hne : a.1 ≠ b.1) : a.2.sku ≠ b.2.sku := by
  intro heq
  have hapart := h "sku" (hunique ▸ List.mem_singleton_self _) a ha b hb hne _ _
    a.2.get?_sku_encode b.2.get?_sku_encode rfl
  exact absurd hapart (by simp [Json.same, heq])

/-- A record is put in without a clash if its stock number is new. -/
theorem distinct_put (h : table.Distinct) {item : Item}
    (hnew : ∀ row ∈ table.rows, row.2.sku ≠ item.sku) (counter : UInt64) :
    Distinct { table with rows := Rows.insert id item table.rows, nextId := counter } := by
  apply Distinct.put h
  intro field hfield value hvalue _
  rw [hunique] at hfield
  obtain rfl := List.mem_singleton.mp hfield
  obtain rfl := Option.some.inj (item.get?_sku_encode.symm.trans hvalue)
  cases htaken : table.isTaken id "sku" (.string item.sku) with
  | false => rfl
  | true =>
    obtain ⟨row, hrow, _, hsku⟩ := isTaken_sku_iff.mp htaken
    exact absurd hsku (hnew row hrow)

end Unique

/-! ## Stock numbers along the way -/

theorem sku_of_inserted {item stored : Item} {entries : Entries}
    (hidField : table.idField = "id") (hobject : item.encode = .object entries)
    (hread : Item.decode (.object (table.stamped id entries)) = .ok stored) :
    stored.sku = item.sku := by
  have hstored := Item.get?_sku_of_decode hread
  have hslot := item.get?_sku_encode
  rw [hobject] at hslot
  change Entries.get? entries "sku" = some (.string item.sku) at hslot
  rw [Table.stamped, Entries.get?_insert, hidField, if_neg (by decide), hslot] at hstored
  exact (Json.string.inj (Option.some.inj hstored)).symm

/-- Items are put in without a clash if their stock numbers are new and differ from each other. -/
theorem distinct_insertAll {items : List Item} {table last : Table Item}
    (h : Table.insertAll items table = (.ok (), last)) (hidField : table.idField = "id")
    (hunique : table.unique = []) (hnodup : (items.map Item.sku).Nodup)
    (hnew : ∀ row ∈ table.rows, ∀ item ∈ items, row.2.sku ≠ item.sku)
    (hdistinct : (table.withUnique "sku").Distinct) : (last.withUnique "sku").Distinct := by
  induction items generalizing table with
  | nil =>
    obtain rfl : table = last := congrArg Prod.snd h
    exact hdistinct
  | cons item rest ih =>
    obtain ⟨hitem, hrest⟩ := List.nodup_cons.mp hnodup
    obtain ⟨id, next, hinsert, hlast⟩ := Table.insertAll_cons h
    obtain ⟨entries, stored, hobject, hread, rfl⟩ := Table.inserted_of_ok hinsert
    have hsku : stored.sku = item.sku := sku_of_inserted hidField hobject hread
    have hdeclared : (table.withUnique "sku").unique = ["sku"] :=
      congrArg (· ++ ["sku"]) hunique
    apply ih hlast hidField hunique hrest
    · intro row hrow other hother
      rcases Rows.mem_insert hrow with rfl | hrow
      · intro heq
        exact hitem (hsku ▸ heq ▸ List.mem_map_of_mem hother)
      · exact hnew row hrow other (List.mem_cons_of_mem _ hother)
    · apply distinct_put hdeclared hdistinct
      intro row hrow
      rw [hsku]
      exact hnew row hrow item List.mem_cons_self

variable {items : List Item} {settings : Settings} {catalog : Catalog}

theorem Reached.distinct [RegexLibrary] (h : Reached items settings catalog)
    (hskus : (items.map Item.sku).Nodup) : catalog.table.Distinct := by
  induction h with
  | built hbuilt _ =>
    obtain ⟨table, hfilled, rfl⟩ := filled_of_ofItems hbuilt
    apply distinct_insertAll hfilled rfl rfl hskus
    · intro row hrow
      exact absurd hrow List.not_mem_nil
    · intro field _ a ha
      exact absurd ha List.not_mem_nil
  | handled hreached request _ ih =>
    obtain ⟨call, hmakes, hcall, _⟩ := (hreached.sound.effect request).makes
    exact hmakes.distinct ih hcall (not_slips hreached.sound.unique_eq call)

theorem Sound.nodup_skus (h : Sound items settings catalog) (hdistinct : catalog.table.Distinct) :
    (catalog.items.map Item.sku).Nodup := by
  rw [Catalog.items, Table.records, List.map_map, List.Nodup, List.pairwise_map]
  refine h.numbered.ascending.imp_of_mem fun ha hb hlt => ?_
  exact sku_ne_of_distinct h.unique_eq hdistinct ha hb (UInt64.ne_of_lt hlt)

/-! ## What is said of a stock number -/

section Verdict

variable (h : Sound items settings catalog)
include h

theorem Sound.get?_sku_stamped (id : UInt64) (entries : Entries) :
    Entries.get? (catalog.table.stamped id entries) "sku" = Entries.get? entries "sku" := by
  rw [Table.stamped, Entries.get?_insert, h.idField_eq, if_neg (by decide)]

theorem Sound.exists_item_iff (P : UInt64 → String → Prop) :
    (∃ row ∈ catalog.table.rows, P row.1 row.2.sku) ↔
      ∃ item ∈ catalog.items, P item.id item.sku := by
  constructor
  · rintro ⟨row, hrow, hP⟩
    refine ⟨row.2, List.mem_map_of_mem hrow, ?_⟩
    rw [h.id_of_mem hrow]
    exact hP
  · rintro ⟨item, hitem, hP⟩
    obtain ⟨row, hrow, rfl⟩ := List.mem_map.mp hitem
    rw [h.id_of_mem hrow] at hP
    exact ⟨row, hrow, hP⟩

/-- A write to an item is held back for its stock number exactly where another item has it, and
otherwise gives the item this stock number. -/
theorem Sound.materialize_sku (id : UInt64) {entries : Entries} {sku : String}
    (hsku : Entries.get? entries "sku" = some (.string sku)) :
    ((∃ detail, catalog.table.materialize id entries = .error (.constraint detail)) ↔
      ∃ item ∈ catalog.items, item.id ≠ id ∧ item.sku = sku) ∧
    ∀ item, catalog.table.materialize id entries = .ok item → item.sku = sku := by
  have hstamped := (h.get?_sku_stamped id entries).trans hsku
  constructor
  · rw [Table.materialize_constraint_iff, conflict_sku_iff h.unique_eq hstamped]
    exact h.exists_item_iff fun number stock => number ≠ id ∧ stock = sku
  · intro item hmade
    obtain ⟨_, hread⟩ := Table.materialize_eq_ok_iff.mp hmade
    have hitem := Item.get?_sku_of_decode hread
    rw [hstamped] at hitem
    exact (Json.string.inj (Option.some.inj hitem)).symm

theorem Sound.create_sku [RegexLibrary] {payload clean : Json}
    (hclean : catalog.endpoint.validate payload false = .ok clean) :
    ∃ sku, askedSku? payload = some sku ∧
      ((catalog.answer (.create payload)).IsConstraintViolation ↔
        ∃ item ∈ catalog.items, item.sku = sku) ∧
      ((catalog.answer (.create payload)).status = .created → ∃ item,
        (catalog.after (.create payload)).table.find catalog.table.nextId = some item ∧
          item.sku = sku) := by
  obtain ⟨hresponse, hstate⟩ := Endpoint.create_of_clean h.store_eq hclean catalog.table
  have hanswer : catalog.answer (.create payload) = _ := hresponse
  have hafter : (catalog.after (.create payload)).table = _ := hstate
  rw [h.validate_eq] at hclean
  obtain ⟨entries, rfl, _, hentries, hwhole⟩ := clean_of_validator hclean
  obtain ⟨sku, hasked⟩ := Option.isSome_iff_exists.mp (hwhole rfl)
  rw [hasked] at hentries
  obtain ⟨hviolation, hmade⟩ := h.materialize_sku catalog.table.nextId hentries
  rw [hanswer, hafter, Table.create_fst]
  refine ⟨sku, hasked, ?_, fun hstatus => ?_⟩
  · have hcreated (body : Json) : (Response.created body).status ≠ .badRequest := fun h => nomatch h
    refine (Endpoint.isConstraintViolation_written_iff hcreated).trans ?_
    refine hviolation.trans (exists_congr fun item => and_congr_right fun hitem => ?_)
    have hne : item.id ≠ catalog.table.nextId := by
      obtain ⟨row, hrow, rfl⟩ := List.mem_map.mp hitem
      rw [h.id_of_mem hrow]
      exact UInt64.ne_of_lt (h.numbered.below row hrow)
    exact and_iff_right hne
  · have hcode : (Endpoint.written .create .created
        (catalog.table.materialize catalog.table.nextId entries)).status.code < 400 := by
      rw [hstatus]
      decide
    obtain ⟨item, hitem⟩ := Endpoint.exists_ok_of_written hcode
    have houtcome := (Table.create_fst entries catalog.table).trans hitem
    exact ⟨item, Table.find_create houtcome, hmade item hitem⟩

theorem Sound.update_sku [RegexLibrary] {raw : String} {id : UInt64} {current : Item}
    (hid : catalog.endpoint.store.parseId? raw = some id)
    (hfind : catalog.table.find id = some current) {payload clean : Json} {partially : Bool}
    (hclean : catalog.endpoint.validate payload partially = .ok clean) :
    let request := Request.update raw payload partially
    let sku := (askedSku? payload).getD current.sku
    ((catalog.answer request).IsConstraintViolation ↔
        ∃ item ∈ catalog.items, item.id ≠ id ∧ item.sku = sku) ∧
      ((catalog.answer request).status = .ok → ∃ item,
        (catalog.after request).table.find id = some item ∧ item.sku = sku) := by
  intro request sku
  obtain ⟨hresponse, hstate⟩ := Endpoint.updateWith_of_clean h.store_eq hid hfind hclean
  rw [← Endpoint.handle_update] at hresponse hstate
  have hanswer : catalog.answer request = _ := hresponse
  have hafter : (catalog.after request).table = _ := hstate
  rw [h.validate_eq] at hclean
  obtain ⟨changes, rfl, hascending, hchanges, _⟩ := clean_of_validator hclean
  have hobject : Storable.encode current = .object current.entries.sorted := rfl
  have hentries : Entries.get? (Entries.overlay current.entries.sorted changes) "sku" =
      some (.string sku) := by
    have hslot : Entries.get? current.entries.sorted "sku" = some (.string current.sku) :=
      current.get?_sku_encode
    rw [Entries.get?_overlay hascending, hchanges, hslot]
    cases hasked : askedSku? payload <;> simp [sku, hasked]
  obtain ⟨hviolation, hmade⟩ := h.materialize_sku id hentries
  rw [hanswer, hafter, Table.update_fst hfind hobject]
  refine ⟨?_, fun hstatus => ?_⟩
  · have hok (body : Json) : (Response.ok body).status ≠ .badRequest := fun h => nomatch h
    exact (Endpoint.isConstraintViolation_written_iff hok).trans hviolation
  · have hcode : (Endpoint.written (if partially then .partialUpdate else .update) .ok
        (catalog.table.materialize id
          (Entries.overlay current.entries.sorted changes))).status.code < 400 := by
      rw [hstatus]
      decide
    obtain ⟨item, hitem⟩ := Endpoint.exists_ok_of_written hcode
    have houtcome := (Table.update_fst hfind hobject changes).trans hitem
    exact ⟨item, Table.find_update houtcome, hmade item hitem⟩

end Verdict

/-- The stock numbers of a catalog that starts with different ones stay different. Of the payloads
that pass validation, one that creates an item is held back for its stock number exactly where some
item has it; one that updates an item, exactly where an item with another number has the stock
number that the item would get. So an update that keeps the stock number is never held back. -/
theorem stock_numbers_stay_apart [RegexLibrary] (h : Reached items settings catalog)
    (hskus : (items.map Item.sku).Nodup) :
    let named := catalog.endpoint.store.parseId?
    let validate := catalog.endpoint.validate
    (catalog.items.map Item.sku).Nodup ∧
    (∀ payload clean, validate payload false = .ok clean →
      ∃ sku, askedSku? payload = some sku ∧
        ((catalog.answer (.create payload)).IsConstraintViolation ↔
          ∃ item ∈ catalog.items, item.sku = sku) ∧
        ((catalog.answer (.create payload)).status = .created → ∃ item,
          (catalog.after (.create payload)).table.find catalog.table.nextId = some item ∧
            item.sku = sku)) ∧
    (∀ raw id current, named raw = some id → catalog.table.find id = some current →
      ∀ payload partially clean, validate payload partially = .ok clean →
        let request := Request.update raw payload partially
        let sku := (askedSku? payload).getD current.sku
        ((catalog.answer request).IsConstraintViolation ↔
          ∃ item ∈ catalog.items, item.id ≠ id ∧ item.sku = sku) ∧
        ((catalog.answer request).status = .ok → ∃ item,
          (catalog.after request).table.find id = some item ∧ item.sku = sku) ∧
        (sku = current.sku → ¬ (catalog.answer request).IsConstraintViolation)) := by
  intro named validate
  have hsound := h.sound
  have hdistinct := h.distinct hskus
  refine ⟨hsound.nodup_skus hdistinct, fun _ _ => hsound.create_sku, ?_⟩
  intro raw id current hid hfind payload partially clean hclean request sku
  obtain ⟨hviolation, hgets⟩ := hsound.update_sku hid hfind hclean
  refine ⟨hviolation, hgets, fun hkept hheld => ?_⟩
  obtain ⟨item, hitem, hne, hsame⟩ := hviolation.mp hheld
  obtain ⟨row, hrow, rfl⟩ := List.mem_map.mp hitem
  rw [hsound.id_of_mem hrow] at hne
  exact sku_ne_of_distinct hsound.unique_eq hdistinct hrow (Rows.mem_of_get? hfind) hne
    (hsame.trans hkept)

/-- Whether a payload of fixed entries passes is computed, what it is then is not. -/
theorem exists_clean_of_isOk {validate : Validator} {payload : Json} {partially : Bool}
    (h : (validate payload partially).isOk = true) :
    ∃ clean, validate payload partially = .ok clean := by
  cases hclean : validate payload partially with
  | error errors =>
    rw [hclean] at h
    exact absurd h Bool.false_ne_true
  | ok clean => exact ⟨clean, rfl⟩

/-- The number 7 is the stock number of the first part, so that the second part cannot get it, while
the first one may be given it again. -/
theorem stock_numbers_stay_apart_of_parts :
    letI : RegexLibrary := .permissive
    let items := [sparePart 1 "7", sparePart 2 "A-2"]
    let catalog : Catalog := ⟨endpointOf (categories items) .standard,
      (Table.insertAll items Table.empty).2.withUnique "sku"⟩
    let payload : Json := .object [("sku", .ofInt 7)]
    Reached items .standard catalog ∧ (items.map Item.sku).Nodup ∧
      (catalog.answer (.update "2" payload true)).IsConstraintViolation ∧
      ¬ (catalog.answer (.update "1" payload true)).IsConstraintViolation := by
  let : RegexLibrary := .permissive
  intro items catalog payload
  have hfilled : (Table.insertAll items Table.empty).1 = .ok () := by decide +kernel
  have hreached : Reached items .standard catalog :=
    .built (ofItems_of_filled hfilled .standard) (by decide +kernel)
  have hskus : (items.map Item.sku).Nodup := by decide
  have hpasses : (catalog.endpoint.validate payload true).isOk = true := by decide
  have hasked : askedSku? payload = some "7" := by decide
  have hfirst : catalog.table.find 1 = some (sparePart 1 "7") := by decide +kernel
  have hsecond : catalog.table.find 2 = some (sparePart 2 "A-2") := by decide +kernel
  obtain ⟨_, _, hupdates⟩ := stock_numbers_stay_apart hreached hskus
  obtain ⟨clean, hclean⟩ := exists_clean_of_isOk hpasses
  obtain ⟨hsecondHeld, _, _⟩ :=
    hupdates "2" 2 _ (by decide) hsecond payload true clean hclean
  obtain ⟨_, _, hfirstKeeps⟩ :=
    hupdates "1" 1 _ (by decide) hfirst payload true clean hclean
  rw [hasked] at hsecondHeld hfirstKeeps
  refine ⟨hreached, hskus, hsecondHeld.mpr ?_, hfirstKeeps rfl⟩
  exact ⟨sparePart 1 "7", by decide +kernel, by decide, rfl⟩

end Catalog

end RecordQuery
