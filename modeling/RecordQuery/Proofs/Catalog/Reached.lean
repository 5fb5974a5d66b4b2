import Mathlib.Control.Monad.Basic
import RecordQuery.Catalog.Basic
import RecordQuery.Proofs.Endpoint.Requests
import RecordQuery.Proofs.Store.Numbering

/-!
# Catalogs that are reached

A catalog starts with a list of items and goes on from request to request. Along the way its
endpoint stays the same and its items keep identifying numbers, as long as no item gets the last
number.
-/

namespace RecordQuery

/-! ## Effects as calls -/

namespace Endpoint

open Table (lastNumber)

variable {R : Type} [Storable R] {endpoint : Endpoint (Table R) UInt64} {table after : Table R}
variable {request : Request} {response : Response}

/-- A request makes of a table what a single call makes of it, which puts in no record as it is. -/
theorem Effect.makes (h : Effect endpoint table request response after) :
    ∃ call, Table.Call.Makes table call after ∧ (∀ record, call ≠ .insert record) ∧
      (after.LastFree → Table.Call.given? table call ≠ some lastNumber) := by
  cases h with
  | answered | refused =>
    exact ⟨.delete 0, .unchanged _, fun _ => by simp, fun _ => by simp [Table.Call.given?]⟩
  | @created payload entries record _ hmade =>
    refine ⟨.create (.object entries), .created hmade, fun _ => by simp, fun hfree => ?_⟩
    have hlast : table.nextId ≠ lastNumber :=
      hfree _ (Rows.mem_insert_self table.nextId record table.rows)
    rw [Table.Call.given?_create hmade]
    exact fun heq => hlast (Option.some.inj heq)
  | updated _ hfind _ hobject hmade =>
    exact ⟨_, .updated hfind hobject hmade, fun _ => by simp, fun _ => by simp [Table.Call.given?]⟩
  | destroyed _ hfind =>
    exact ⟨_, .deleted hfind, fun _ => by simp, fun _ => by simp [Table.Call.given?]⟩

end Endpoint

namespace Catalog

open Table (Numbered)

def answer [RegexLibrary] (catalog : Catalog) (request : Request) : Response :=
  (catalog.endpoint.handle request catalog.table).response

def after [RegexLibrary] (catalog : Catalog) (request : Request) : Catalog :=
  { catalog with table := (catalog.endpoint.handle request catalog.table).state }

/-- Catalogs that a list of items leads to by requests, with no item under the last number on the
way. -/
inductive Reached [RegexLibrary] (items : List Item) (settings : Settings) : Catalog → Prop where
  | built {catalog : Catalog} (hbuilt : ofItems items settings = .ok catalog)
      (hfree : catalog.table.LastFree) : Reached items settings catalog
  | handled {catalog : Catalog} (hreached : Reached items settings catalog) (request : Request)
      (hfree : (catalog.after request).table.LastFree) :
      Reached items settings (catalog.after request)

structure Sound (items : List Item) (settings : Settings) (catalog : Catalog) : Prop where
  endpoint_eq : catalog.endpoint = endpointOf (categories items) settings
  idField_eq : catalog.table.idField = "id"
  unique_eq : catalog.table.unique = ["sku"]
  numbered : Numbered catalog.table

variable {items : List Item} {settings : Settings} {catalog : Catalog}

theorem filled_of_ofItems (h : ofItems items settings = .ok catalog) :
    ∃ table, Table.insertAll items Table.empty = (.ok (), table) ∧
      catalog = ⟨endpointOf (categories items) settings, table.withUnique "sku"⟩ := by
  unfold ofItems at h
  split at h
  · rename_i table heq
    exact ⟨table, heq, (Except.ok.inj h).symm⟩
  · exact absurd h (by simp)

theorem ofItems_of_filled (h : (Table.insertAll items Table.empty).1 = .ok ())
    (settings : Settings) :
    ofItems items settings = .ok ⟨endpointOf (categories items) settings,
      (Table.insertAll items Table.empty).2.withUnique "sku"⟩ := by
  unfold ofItems
  split
  · rename_i heq
    rw [heq]
  · rename_i heq
    rw [heq] at h
    exact absurd h (by simp)

namespace Sound

section

variable (h : Sound items settings catalog)
include h

theorem store_eq : catalog.endpoint.store = Table.store Item := by
  rw [h.endpoint_eq]
  rfl

theorem validate_eq : catalog.endpoint.validate = validator (categories items) := by
  rw [h.endpoint_eq]
  rfl

theorem effect [RegexLibrary] (request : Request) :
    Endpoint.Effect catalog.endpoint catalog.table request (catalog.answer request)
      (catalog.after request).table :=
  Endpoint.effect_handle h.store_eq request catalog.table

theorem id_of_mem {row : UInt64 × Item} (hrow : row ∈ catalog.table.rows) : row.2.id = row.1 := by
  have hcarried := h.numbered.carried row hrow
  rw [h.idField_eq] at hcarried
  exact Decode.ofUInt64_inj (Json.number.inj (Option.some.inj
    (row.2.get?_id_encode.symm.trans hcarried)))

theorem id_of_materialize {id : UInt64} {entries : Entries} {item : Item}
    (hmade : catalog.table.materialize id entries = .ok item) : item.id = id := by
  obtain ⟨_, hread⟩ := Table.materialize_eq_ok_iff.mp hmade
  rw [Table.stamped, h.idField_eq] at hread
  exact Item.id_of_decode hread

theorem after_sound [RegexLibrary] (request : Request)
    (hfree : (catalog.after request).table.LastFree) :
    Sound items settings (catalog.after request) := by
  obtain ⟨call, hmakes, _, hlast⟩ := (h.effect request).makes
  obtain ⟨hidField, hunique⟩ := hmakes.fields
  have hcarries : Table.CarriesNumber Item catalog.table.idField := by
    rw [h.idField_eq]
    exact Item.carriesNumber
  exact ⟨h.endpoint_eq, hidField.trans h.idField_eq, hunique.trans h.unique_eq,
    hmakes.numbered h.numbered hcarries (hlast hfree)⟩

end

theorem of_ofItems (hbuilt : ofItems items settings = .ok catalog)
    (hfree : catalog.table.LastFree) : Sound items settings catalog := by
  obtain ⟨table, hfilled, rfl⟩ := filled_of_ofItems hbuilt
  have hempty : Numbered (Table.empty : Table Item) := .of_nil 1 (UInt64.le_refl _) "id" []
  obtain ⟨hnumbered, hidField, hunique⟩ :=
    Table.numbered_insertAll hfilled hfree Item.carriesNumber hempty
  exact ⟨rfl, hidField, congrArg (· ++ ["sku"]) hunique, hnumbered.withUnique "sku"⟩

end Sound

theorem Reached.sound [RegexLibrary] (h : Reached items settings catalog) :
    Sound items settings catalog := by
  induction h with
  | built hbuilt hfree => exact .of_ofItems hbuilt hfree
  | handled _ request hfree ih => exact ih.after_sound request hfree

end Catalog

end RecordQuery
