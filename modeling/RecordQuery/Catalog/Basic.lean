import RecordQuery.Catalog.Rules
import RecordQuery.Catalog.Snapshot
import RecordQuery.Catalog.Stock
import RecordQuery.Endpoint

/-!
# Catalogs

A table of items behind an endpoint. No two items have the same stock number, and payloads are
held to the rules of the catalog.
-/

namespace RecordQuery

structure Catalog where
  endpoint : Endpoint (Table Catalog.Item) UInt64
  table : Table Catalog.Item

namespace Catalog

/-- The endpoint of a catalog in which these categories are known. -/
def endpointOf (known : List Category) (settings : Settings) :
    Endpoint (Table Item) UInt64 where
  store := Table.store Item
  validate := validator known
  settings := settings
  preFilter := none

/-- The catalog of a list of items. Stock numbers are held apart from then on. -/
def ofItems (items : List Item) (settings : Settings) : Except StoreError Catalog :=
  match Table.insertAll items Table.empty with
  | (.ok (), table) => .ok ⟨endpointOf (categories items) settings, table.withUnique "sku"⟩
  | (.error failure, _) => .error failure

/-- The items in the order of their numbers. -/
def items (catalog : Catalog) : List Item := catalog.table.records

def snapshot (catalog : Catalog) : String := Snapshot.write catalog.items

end Catalog

end RecordQuery
