import RecordQuery.Lineage
import RecordQuery.Store.Table

/-!
# Items of a catalog

A product with its stock, its category and its tags.
-/

namespace RecordQuery.Catalog

/-- A category, which may lie within another one, its parent. -/
abbrev Category := Lineage

/-- A category is written with its parent, and without one when it has none. -/
def categoryForm : Lineage.Form := ⟨"Category", "parent", false⟩

structure Tag where
  name : String
deriving DecidableEq

namespace Tag

def encode (tag : Tag) : Json := .object [("name", .string tag.name)]

def decode : Json → Except DecodeError Tag :=
  Decode.record "Tag" [.required "name" Decode.text] fun slot => do
    return ⟨← Decode.required "name" Decode.text (slot "name")⟩

def view (tag : Tag) : Record := .node [("name", .text tag.name)] [] none

end Tag

structure Item where
  id : UInt64
  sku : String
  name : String
  price : Binary64
  stock : Int64
  active : Bool
  createdAt : String
  category : Option Category
  tags : List Tag
deriving DecidableEq

namespace Item

/-! ## The data format -/

def entries (item : Item) : Entries :=
  [ ("id", .number (.ofUInt64 item.id)),
    ("sku", .string item.sku),
    ("name", .string item.name),
    ("price", .ofBinary64 item.price),
    ("stock", .number (.ofInt64 item.stock)),
    ("active", .bool item.active),
    ("created_at", .string item.createdAt),
    ("category", .ofOption (item.category.map (Lineage.encode categoryForm))),
    ("tags", .array (item.tags.map Tag.encode)) ]

def encode (item : Item) : Json := .ofEntries item.entries

def forms : List Decode.FieldForm :=
  [ .defaulted "id" Decode.unsigned,
    .required "sku" Decode.text,
    .required "name" Decode.text,
    .required "price" Decode.float,
    .defaulted "stock" Decode.signed,
    .defaulted "active" Decode.bool,
    .defaulted "created_at" Decode.text,
    .defaulted "category" (Decode.optional (Lineage.decode categoryForm)),
    .defaulted "tags" (Decode.list Tag.decode) ]

def build (slot : String → Option Json) : Except DecodeError Item := do
  return {
    id := ← Decode.orElse 0 Decode.unsigned (slot "id")
    sku := ← Decode.required "sku" Decode.text (slot "sku")
    name := ← Decode.required "name" Decode.text (slot "name")
    price := ← Decode.required "price" Decode.float (slot "price")
    stock := ← Decode.orElse 0 Decode.signed (slot "stock")
    active := ← Decode.orElse false Decode.bool (slot "active")
    createdAt := ← Decode.orElse "" Decode.text (slot "created_at")
    category :=
      ← Decode.orElse none (Decode.optional (Lineage.decode categoryForm)) (slot "category")
    tags := ← Decode.orElse [] (Decode.list Tag.decode) (slot "tags") }

def decode : Json → Except DecodeError Item := Decode.record "Item" forms build

/-! ## Schema and view -/

def schema : Schema :=
  ⟨"Item", [⟨"id", .integer⟩, ⟨"sku", .text⟩, ⟨"name", .text⟩, ⟨"price", .float⟩,
    ⟨"stock", .integer⟩, ⟨"active", .boolean⟩, ⟨"created_at", .datetime⟩,
    ⟨"category", .relation "Category"⟩, ⟨"tags", .relation "Tag"⟩]⟩

def view (item : Item) : Record :=
  .node
    [ ("id", .number (.unsigned item.id)),
      ("sku", .text item.sku),
      ("name", .text item.name),
      ("price", .number (.float item.price)),
      ("stock", .number (.signed item.stock)),
      ("active", .bool item.active),
      ("created_at", .text item.createdAt) ]
    [ ("category", item.category.toList.map (Lineage.view categoryForm)),
      ("tags", item.tags.map Tag.view) ]
    none

end Item

def categorySchema : Schema :=
  ⟨"Category", [⟨"id", .integer⟩, ⟨"name", .text⟩, ⟨"parent", .relation "Category"⟩]⟩

def tagSchema : Schema := ⟨"Tag", [⟨"name", .text⟩]⟩

def schemas : Schemas := .ofList [Item.schema, categorySchema, tagSchema]

instance : Storable Item where
  schemas := schemas
  schema := Item.schema
  view := Item.view
  encode := Item.encode
  decode := Item.decode

end RecordQuery.Catalog
