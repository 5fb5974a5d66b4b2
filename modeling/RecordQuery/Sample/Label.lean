import RecordQuery.Store.Table

/-!
# Labels and bare texts

Two sample types of records at the edges: one whose number is not called `id`, and one that is
written as a text and therefore fits no table.
-/

namespace RecordQuery.Sample

structure Label where
  pk : UInt64
  label : String
deriving DecidableEq

namespace Label

def encode (label : Label) : Json :=
  .ofEntries [("pk", .number (.ofUInt64 label.pk)), ("label", .string label.label)]

def decode : Json → Except DecodeError Label :=
  Decode.record "Label" [.defaulted "pk" Decode.unsigned, .required "label" Decode.text]
    fun slot => do
      return ⟨← Decode.orElse 0 Decode.unsigned (slot "pk"),
        ← Decode.required "label" Decode.text (slot "label")⟩

/-- The field `memo` never has a value. -/
def schema : Schema := ⟨"Label", [⟨"pk", .integer⟩, ⟨"label", .text⟩, ⟨"memo", .text⟩]⟩

def view (label : Label) : Record :=
  .node [("pk", .number (.unsigned label.pk)), ("label", .text label.label)] [] none

end Label

instance : Storable Label where
  schemas := .ofList [Label.schema]
  schema := Label.schema
  view := Label.view
  encode := Label.encode
  decode := Label.decode

structure Bare where
  text : String
deriving DecidableEq

namespace Bare

def schema : Schema := ⟨"Bare", []⟩

end Bare

instance : Storable Bare where
  schemas := .ofList [Bare.schema]
  schema := Bare.schema
  view _ := .node [] [] none
  encode bare := .string bare.text
  decode value := (Decode.text value).map Bare.mk

end RecordQuery.Sample
