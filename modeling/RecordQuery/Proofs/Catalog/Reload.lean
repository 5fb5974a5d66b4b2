import RecordQuery.Proofs.Catalog.Reached
import RecordQuery.Proofs.Catalog.Written
import RecordQuery.Proofs.Store.Refill

/-!
# Catalogs that are loaded again

A catalog that starts with the items of another one has the same items under the same numbers.
-/

namespace RecordQuery.Catalog

variable {items : List Item} {settings : Settings} {catalog : Catalog}

/-- The price of every item of the catalog is a number. -/
def IsPriced (catalog : Catalog) : Prop := ∀ row ∈ catalog.table.rows, row.2.Priced

theorem isPriced_of_ofItems (h : ofItems items settings = .ok catalog) : catalog.IsPriced := by
  obtain ⟨table, hfilled, rfl⟩ := filled_of_ofItems h
  have hempty : ∀ row ∈ (Table.empty : Table Item).rows, row.2.Priced := fun _ hrow =>
    absurd hrow List.not_mem_nil
  have hlast : ∀ row ∈ table.rows, row.2.Priced :=
    Table.forall_records_insertAll (fun _ _ => Item.priced_of_decode) hfilled hempty
  exact hlast

namespace Sound

variable (h : Sound items settings catalog)
include h

theorem isPriced_after [RegexLibrary] (hpriced : catalog.IsPriced) (request : Request) :
    (catalog.after request).IsPriced := by
  obtain ⟨call, hmakes, _, _⟩ := (h.effect request).makes
  exact hmakes.forall_records (fun _ _ => Item.priced_of_decode) hpriced

theorem rereads (hpriced : catalog.IsPriced) :
    ∀ row ∈ catalog.table.rows, Table.Rereads catalog.table.idField row := by
  rintro ⟨number, item⟩ hrow
  obtain ⟨x, hprice⟩ := hpriced _ hrow
  have hid : item.id = number := h.id_of_mem hrow
  refine ⟨item.entries.sorted, rfl, ?_⟩
  rw [h.idField_eq]
  refine (Item.decode_stamped hprice number).trans (congrArg Except.ok ?_)
  rw [← hid]

/-- The items of a catalog make a catalog with the same items under the same numbers, in which the
number behind the highest one is the next. -/
theorem exists_reloaded (hpriced : catalog.IsPriced) (hfree : catalog.table.LastFree)
    (other : Settings) :
    ∃ reloaded, ofItems catalog.items other = .ok reloaded ∧
      reloaded.table.rows = catalog.table.rows ∧
      reloaded.table.nextId.toNat = catalog.table.highestNumber + 1 := by
  obtain ⟨counter, hfilled, hcounter⟩ :=
    Table.insertAll_records h.numbered hfree (h.rereads hpriced)
  rw [h.idField_eq] at hfilled
  have hfilled : Table.insertAll catalog.items Table.empty = (.ok (), _) := hfilled
  refine ⟨_, ofItems_of_filled (congrArg Prod.fst hfilled) other, ?_, ?_⟩
  · rw [hfilled]
    rfl
  · rw [hfilled]
    exact hcounter

end Sound

end RecordQuery.Catalog
