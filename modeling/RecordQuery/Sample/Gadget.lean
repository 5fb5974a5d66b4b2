import RecordQuery.Lineage
import RecordQuery.Store.Table

/-!
# Gadgets

A sample type of records with a field of every type: optional numbers, a decimal price, an owner
and a list of parts.
-/

namespace RecordQuery.Sample

/-- A person, who may have a superior. -/
abbrev Person := Lineage

def personForm : Lineage.Form := ⟨"Person", "boss", true⟩

structure Part where
  code : String
  qty : UInt64
deriving DecidableEq

namespace Part

def encode (part : Part) : Json :=
  .object [("code", .string part.code), ("qty", .number (.ofUInt64 part.qty))]

def decode : Json → Except DecodeError Part :=
  Decode.record "Part" [.required "code" Decode.text, .required "qty" Decode.unsigned]
    fun slot => do
      return ⟨← Decode.required "code" Decode.text (slot "code"),
        ← Decode.required "qty" Decode.unsigned (slot "qty")⟩

def view (part : Part) : Record :=
  .node [("code", .text part.code), ("qty", .number (.unsigned part.qty))] [] none

end Part

structure Gadget where
  id : UInt64
  name : String
  count : Int64
  weight : Option Binary64
  price : Option Decimal
  active : Option Bool
  madeAt : Option String
  owner : Option Person
  parts : List Part
deriving DecidableEq

namespace Gadget

def encode (gadget : Gadget) : Json :=
  .ofEntries [
    ("id", .number (.ofUInt64 gadget.id)),
    ("name", .string gadget.name),
    ("count", .number (.ofInt64 gadget.count)),
    ("weight", .ofOption (gadget.weight.map .ofBinary64)),
    ("price", .ofOption (gadget.price.map fun d => .string d.text)),
    ("active", .ofOption (gadget.active.map .bool)),
    ("made_at", .ofOption (gadget.madeAt.map .string)),
    ("owner", .ofOption (gadget.owner.map (Lineage.encode personForm))),
    ("parts", .array (gadget.parts.map Part.encode))]

def forms : List Decode.FieldForm :=
  [ .defaulted "id" Decode.unsigned,
    .required "name" Decode.text,
    .defaulted "count" Decode.signed,
    .defaulted "weight" (Decode.optional Decode.float),
    .defaulted "price" (Decode.optional Decode.decimal),
    .defaulted "active" (Decode.optional Decode.bool),
    .defaulted "made_at" (Decode.optional Decode.text),
    .defaulted "owner" (Decode.optional (Lineage.decode personForm)),
    .defaulted "parts" (Decode.list Part.decode) ]

def build (slot : String → Option Json) : Except DecodeError Gadget := do
  return {
    id := ← Decode.orElse 0 Decode.unsigned (slot "id")
    name := ← Decode.required "name" Decode.text (slot "name")
    count := ← Decode.orElse 0 Decode.signed (slot "count")
    weight := ← Decode.orElse none (Decode.optional Decode.float) (slot "weight")
    price := ← Decode.orElse none (Decode.optional Decode.decimal) (slot "price")
    active := ← Decode.orElse none (Decode.optional Decode.bool) (slot "active")
    madeAt := ← Decode.orElse none (Decode.optional Decode.text) (slot "made_at")
    owner := ← Decode.orElse none (Decode.optional (Lineage.decode personForm)) (slot "owner")
    parts := ← Decode.orElse [] (Decode.list Part.decode) (slot "parts") }

def decode : Json → Except DecodeError Gadget := Decode.record "Gadget" forms build

def schema : Schema :=
  ⟨"Gadget", [⟨"id", .integer⟩, ⟨"name", .text⟩, ⟨"count", .integer⟩, ⟨"weight", .float⟩,
    ⟨"price", .decimal⟩, ⟨"active", .boolean⟩, ⟨"made_at", .datetime⟩,
    ⟨"owner", .relation "Person"⟩, ⟨"parts", .relation "Part"⟩]⟩

def present {α : Type} (toValue : α → Value) : Option α → Value
  | some a => toValue a
  | none => .missing

def view (gadget : Gadget) : Record :=
  .node
    [ ("id", .number (.unsigned gadget.id)),
      ("name", .text gadget.name),
      ("count", .number (.signed gadget.count)),
      ("weight", present (fun x => .number (.float x)) gadget.weight),
      ("price", present (fun d => .number (.decimal d)) gadget.price),
      ("active", present .bool gadget.active),
      ("made_at", present .text gadget.madeAt) ]
    [ ("owner", gadget.owner.toList.map (Lineage.view personForm)),
      ("parts", gadget.parts.map Part.view) ]
    none

end Gadget

def personSchema : Schema :=
  ⟨"Person", [⟨"id", .integer⟩, ⟨"name", .text⟩, ⟨"boss", .relation "Person"⟩,
    ⟨"gadgets", .relation "Gadget"⟩]⟩

def partSchema : Schema := ⟨"Part", [⟨"code", .text⟩, ⟨"qty", .integer⟩]⟩

def gadgetSchemas : Schemas := .ofList [Gadget.schema, personSchema, partSchema]

instance : Storable Gadget where
  schemas := gadgetSchemas
  schema := Gadget.schema
  view := Gadget.view
  encode := Gadget.encode
  decode := Gadget.decode

end RecordQuery.Sample
