import RecordQuery.Catalog.Item

/-!
# A small stock of items

The items with which a catalog starts when it is given none.
-/

namespace RecordQuery.Catalog

def hardware : Category := .top 1 "Hardware"

def tools : Category := .under 2 "Tools" hardware

def garden : Category := .top 3 "Garden"

/-- A price in hundredths. -/
def price (cents : Nat) : Binary64 := Binary64.ofRatio false cents 100

def sample : List Item :=
  [ { id := 1, sku := "HW-100", name := "Hammer", price := price 1950, stock := 40,
      active := true, createdAt := "2024-01-15T09:30:00Z", category := some tools,
      tags := [⟨"steel"⟩, ⟨"bestseller"⟩] },
    { id := 2, sku := "HW-101", name := "Hand saw", price := price 2400, stock := 12,
      active := true, createdAt := "2024-02-03T14:00:00Z", category := some tools,
      tags := [⟨"steel"⟩] },
    { id := 3, sku := "HW-200", name := "Hinge pack", price := price 625, stock := 0,
      active := false, createdAt := "2023-11-20T08:15:00Z", category := some hardware,
      tags := [] },
    { id := 4, sku := "GD-001", name := "Garden hose", price := price 3290, stock := 7,
      active := true, createdAt := "2024-03-28T11:45:00Z", category := some garden,
      tags := [⟨"outdoor"⟩] },
    { id := 5, sku := "GD-002", name := "Hedge trimmer", price := price 8900, stock := 3,
      active := true, createdAt := "2024-04-02T16:20:00Z", category := some garden,
      tags := [⟨"outdoor"⟩, ⟨"power"⟩] },
    { id := 6, sku := "MS-001", name := "Gift card", price := price 2500, stock := 100,
      active := true, createdAt := "2024-05-01T00:00:00Z", category := none,
      tags := [] } ]

end RecordQuery.Catalog
