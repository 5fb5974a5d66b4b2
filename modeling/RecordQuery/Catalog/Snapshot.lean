import RecordQuery.Catalog.Item
import RecordQuery.Json.Parse
import RecordQuery.Json.Print

/-!
# Snapshots

The items of a catalog as the text of a file: a list of items, each with its fields in order. What
stands in a text beside these fields is passed over.
-/

namespace RecordQuery.Catalog.Snapshot

def write (items : List Item) : String :=
  (Json.array (items.map fun item => .object item.entries)).pretty

/-! ## Reading -/

inductive Place where
  | items
  | item
  | category
  | tags
  | tag
  | value
deriving DecidableEq

namespace Place

/-- The place of the value under a key, if the key names a field of what stands here. -/
def under? : Place → String → Option Place
  | item, key =>
    if key = "category" then some category
    else if key = "tags" then some tags
    else if Item.forms.any fun form => form.name == key then some value
    else none
  | category, key =>
    if key = categoryForm.link then some category
    else if key = "id" ∨ key = "name" then some value
    else none
  | tag, key => if key = "name" then some value else none
  | _, _ => some value

/-- The place of an element: records may be written as arrays of their fields. -/
def element : Place → Nat → Place
  | items, _ => item
  | item, 7 => category
  | item, 8 => tags
  | category, 2 => category
  | tags, _ => tag
  | _, _ => value

end Place

/-- What is read of a snapshot: the fields of items, categories and tags. -/
def guide : Json.Guide Place := ⟨Place.under?, Place.element⟩

/-- The items that a text lists, if it is a list of items. -/
def read? (text : String) : Option (List Item) :=
  (Json.readWith? guide .items text).bind fun value => (Decode.list Item.decode value).toOption

end RecordQuery.Catalog.Snapshot
