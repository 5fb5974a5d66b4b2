import RecordQuery.Proofs.Catalog.Reached

/-!
# What requests do to a catalog

Every request to a catalog that is reached is answered without a fault. A read or a refusal leaves
the table as it is; a record that is created is added, one that is updated is replaced under its
own number, one that is destroyed is removed, and nothing else changes.
-/

namespace RecordQuery

namespace Table

variable {R : Type}

/-- Under every other number stands what stood there before. -/
def SameBut (id : UInt64) (before after : Table R) : Prop :=
  ∀ other, other ≠ id → after.find other = before.find other

structure Added (before after : Table R) (id : UInt64) (record : R) : Prop where
  free : before.find id = none
  stored : after.find id = some record
  others : SameBut id before after
  size_eq : after.size = before.size + 1

structure Replaced (before after : Table R) (id : UInt64) (old new : R) : Prop where
  found : before.find id = some old
  stored : after.find id = some new
  others : SameBut id before after
  size_eq : after.size = before.size
  nextId_eq : after.nextId = before.nextId

structure Removed (before after : Table R) (id : UInt64) (old : R) : Prop where
  found : before.find id = some old
  gone : after.find id = none
  others : SameBut id before after
  size_eq : after.size + 1 = before.size
  nextId_eq : after.nextId = before.nextId

variable {table : Table R} {id : UInt64}

theorem added_insert (hfree : table.find id = none) (record : R) (counter : UInt64) :
    Added table { table with rows := Rows.insert id record table.rows, nextId := counter } id
      record := by
  refine ⟨hfree, ?_, ?_, Rows.length_insert_of_free hfree record⟩
  · exact (Rows.get?_insert id id record table.rows).trans (if_pos rfl)
  · intro other hne
    exact (Rows.get?_insert id other record table.rows).trans (if_neg hne)

variable (h : Rows.Ascending table.rows) {old : R} (hfind : table.find id = some old)
include h hfind

theorem replaced_insert (record : R) :
    Replaced table { table with rows := Rows.insert id record table.rows } id old record := by
  refine ⟨hfind, ?_, ?_, h.length_insert_of_taken hfind record, rfl⟩
  · exact (Rows.get?_insert id id record table.rows).trans (if_pos rfl)
  · intro other hne
    exact (Rows.get?_insert id other record table.rows).trans (if_neg hne)

theorem removed_erase :
    Removed table { table with rows := Rows.erase id table.rows } id old := by
  refine ⟨hfind, ?_, ?_, h.length_erase_of_taken hfind, rfl⟩
  · exact (Rows.get?_erase id id table.rows).trans (if_pos rfl)
  · intro other hne
    exact (Rows.get?_erase id other table.rows).trans (if_neg hne)

end Table

/-! ## What the status tells -/

namespace Endpoint.Effect

variable {R : Type} [Storable R] {endpoint : Endpoint (Table R) UInt64} {table after : Table R}
variable {request : Request} {response : Response}
variable (h : Effect endpoint table request response after)
include h

theorem status_ne_internalServerError : response.status ≠ .internalServerError := by
  intro hfault
  cases h with
  | answered _ hstatus => exact absurd (hstatus.symm.trans hfault) (by decide)
  | refused hrefused =>
    rw [hfault] at hrefused
    exact absurd hrefused (by decide)
  | created | updated | destroyed => exact nomatch hfault

theorem leaves (hleave : request.isRead = true ∨ 400 ≤ response.status.code) : after = table := by
  cases h with
  | answered | refused => rfl
  | created | updated | destroyed =>
    rcases hleave with hread | hcode
    · exact nomatch hread
    · exact absurd hcode (by simp [Response.created, Response.ok, Response.noContent, Status.code])

theorem adds_of_created (hnumbered : Table.Numbered table) (hstatus : response.status = .created) :
    ∃ id record entries, Table.Added table after id record ∧
      response.body = some (Storable.encode record) ∧
      table.materialize id entries = .ok record := by
  cases h with
  | answered _ hok => exact absurd (hok.symm.trans hstatus) (by decide)
  | refused hrefused =>
    rw [hstatus] at hrefused
    exact absurd hrefused (by decide)
  | created _ hmade => exact ⟨_, _, _, Table.added_insert hnumbered.find_nextId _ _, rfl, hmade⟩
  | updated | destroyed => exact nomatch hstatus

theorem replaces_of_ok (hascending : Rows.Ascending table.rows) {raw : String} {payload : Json}
    {partially : Bool} (hrequest : request = .update raw payload partially)
    (hstatus : response.status = .ok) :
    ∃ id old record entries, endpoint.store.parseId? raw = some id ∧
      Table.Replaced table after id old record ∧ response.body = some (Storable.encode record) ∧
      table.materialize id entries = .ok record := by
  subst hrequest
  cases h with
  | answered hread _ => exact nomatch hread
  | refused hrefused =>
    rw [hstatus] at hrefused
    exact absurd hrefused (by decide)
  | updated hid hfind _ _ hmade =>
    exact ⟨_, _, _, _, hid, Table.replaced_insert hascending hfind _, rfl, hmade⟩

theorem removes_of_noContent (hascending : Rows.Ascending table.rows)
    (hstatus : response.status = .noContent) :
    ∃ raw id old, request = .destroy raw ∧ endpoint.store.parseId? raw = some id ∧
      Table.Removed table after id old := by
  cases h with
  | answered _ hok => exact absurd (hok.symm.trans hstatus) (by decide)
  | refused hrefused =>
    rw [hstatus] at hrefused
    exact absurd hrefused (by decide)
  | created | updated => exact nomatch hstatus
  | destroyed hid hfind => exact ⟨_, _, _, rfl, hid, Table.removed_erase hascending hfind⟩

end Endpoint.Effect

namespace Catalog

variable {items : List Item} {settings : Settings} {catalog : Catalog}

/-- What a request does to a catalog that is reached. No request meets a fault; a read or a refusal
changes nothing; a record that is created is added under a free number, which names it from then
on; one that is updated is replaced under its number, which the payload cannot change; one that is
destroyed is removed, so that destroying it again finds nothing. -/
theorem request_effects [RegexLibrary] (h : Reached items settings catalog) (request : Request) :
    let response := catalog.answer request
    let next := catalog.after request
    let named := catalog.endpoint.store.parseId?
    response.status ≠ .internalServerError ∧
    (request.isRead = true ∨ 400 ≤ response.status.code → next.table = catalog.table) ∧
    (response.status = .created → ∃ id item, Table.Added catalog.table next.table id item ∧
      response.body = some item.encode ∧ item.id = id ∧
      named (Digits.natText id.toNat) = some id ∧
      ∀ raw, named raw = some id → next.answer (.retrieve raw) = .ok item.encode) ∧
    (∀ raw payload partially, request = .update raw payload partially →
      response.status = .ok → ∃ id old item, named raw = some id ∧
        Table.Replaced catalog.table next.table id old item ∧
        response.body = some item.encode ∧ old.id = id ∧ item.id = id) ∧
    (response.status = .noContent → ∃ raw id old, request = .destroy raw ∧ named raw = some id ∧
      Table.Removed catalog.table next.table id old ∧ next.answer request = .notFound) := by
  intro response next named
  have hsound := h.sound
  have heffect := hsound.effect request
  have hascending := hsound.numbered.ascending
  refine ⟨heffect.status_ne_internalServerError, heffect.leaves, ?_, ?_, ?_⟩
  · intro hstatus
    obtain ⟨id, item, entries, hadded, hbody, hmade⟩ :=
      heffect.adds_of_created hsound.numbered hstatus
    refine ⟨id, item, hadded, hbody, hsound.id_of_materialize hmade,
      Endpoint.parseId?_natText hsound.store_eq id, ?_⟩
    intro raw hraw
    exact (Endpoint.retrieve_of_find hsound.store_eq hraw hadded.stored).1
  · intro raw payload partially hrequest hstatus
    obtain ⟨id, old, item, entries, hid, hreplaced, hbody, hmade⟩ :=
      heffect.replaces_of_ok hascending hrequest hstatus
    exact ⟨id, old, item, hid, hreplaced, hbody,
      hsound.id_of_mem (Rows.mem_of_get? hreplaced.found), hsound.id_of_materialize hmade⟩
  · intro hstatus
    obtain ⟨raw, id, old, rfl, hid, hremoved⟩ :=
      heffect.removes_of_noContent hascending hstatus
    exact ⟨raw, id, old, rfl, hid, hremoved,
      (Endpoint.destroy_of_missing hsound.store_eq hid hremoved.gone).1⟩

/-- A spare part is created beside another one, destroyed, and not found when it is destroyed
again. -/
theorem request_effects_of_destroyed_part :
    letI : RegexLibrary := .permissive
    let items := [sparePart 7 "A-1"]
    let start : Catalog := ⟨endpointOf (categories items) .standard,
      (Table.insertAll items Table.empty).2.withUnique "sku"⟩
    let catalog := start.after (.create (sparePayload "A-2"))
    let next := catalog.after (.destroy "8")
    Reached items .standard catalog ∧ catalog.table.size = 2 ∧
      (catalog.answer (.destroy "8")).status = .noContent ∧
      next.table.size = 1 ∧ next.answer (.destroy "8") = .notFound := by
  let : RegexLibrary := .permissive
  intro items start catalog next
  have hfilled : (Table.insertAll items Table.empty).1 = .ok () := by decide +kernel
  have hbuilt : ofItems items .standard = .ok start := ofItems_of_filled hfilled .standard
  have hreached : Reached items .standard catalog :=
    .handled (.built hbuilt (by decide +kernel)) _ (by decide +kernel)
  have hsize : catalog.table.size = 2 := by decide +kernel
  have hstatus : (catalog.answer (.destroy "8")).status = .noContent := by decide +kernel
  obtain ⟨_, _, _, _, hdestroyed⟩ := request_effects hreached (.destroy "8")
  obtain ⟨_, _, _, _, _, hremoved, hagain⟩ := hdestroyed hstatus
  have hsmaller : next.table.size + 1 = catalog.table.size := hremoved.size_eq
  rw [hsize] at hsmaller
  exact ⟨hreached, hsize, hstatus, Nat.succ.inj hsmaller, hagain⟩

end Catalog

end RecordQuery
