import RecordQuery.Catalog.Item
import RecordQuery.Proofs.Store.Calls

/-!
# Items in the data format

What is read as an item holds its number and its stock number under their names, and so does what
an item is written as.
-/

namespace RecordQuery

namespace Decode

variable {α β : Type}

theorem exists_of_bind_eq_ok {read : Except DecodeError α} {next : α → Except DecodeError β}
    {b : β} (h : (read >>= next) = .ok b) : ∃ a, read = .ok a ∧ next a = .ok b := by
  cases read with
  | error problem => exact absurd h (by simp [bind, Except.bind])
  | ok a => exact ⟨a, rfl, h⟩

theorem eq_string_of_text {value : Json} {s : String} (h : text value = .ok s) :
    value = .string s := by
  cases value with
  | string t =>
    obtain rfl : t = s := Except.ok.inj h
    rfl
  | _ => exact absurd h (by simp [text, mismatch])

theorem unsigned_ofUInt64 (n : UInt64) : unsigned (.number (.ofUInt64 n)) = .ok n := by
  have hpos : (0 : Int) ≤ (n.toNat : Int) := Int.natCast_nonneg _
  simp only [unsigned, JsonNumber.ofUInt64, hpos, if_true, Int.toNat_natCast, UInt64.ofNat_toNat]

theorem ofUInt64_inj {m n : UInt64} (h : JsonNumber.ofUInt64 m = .ofUInt64 n) : m = n := by
  have hread := unsigned_ofUInt64 m
  rw [h, unsigned_ofUInt64 n] at hread
  exact (Except.ok.inj hread).symm

theorem exists_of_required {name : String} {read : Json → Except DecodeError α}
    {slot : Option Json} {a : α} (h : required name read slot = .ok a) :
    ∃ value, slot = some value ∧ read value = .ok a := by
  cases slot with
  | none => exact absurd h (by simp [required])
  | some value => exact ⟨value, rfl, h⟩

/-- A record read from an object is built from what stands under its names. -/
theorem build_of_record {name : String} {forms : List FieldForm}
    {build : (String → Option Json) → Except DecodeError α} {entries : Entries} {a : α}
    (h : record name forms build (.object entries) = .ok a) :
    build (Entries.get? entries) = .ok a := by
  unfold record at h
  dsimp only at h
  split at h
  · exact absurd h (by simp)
  · exact h

end Decode

namespace Catalog.Item

theorem slots_of_build {slot : String → Option Json} {item : Item} (h : build slot = .ok item) :
    Decode.orElse 0 Decode.unsigned (slot "id") = .ok item.id ∧
      slot "sku" = some (.string item.sku) := by
  unfold build at h
  obtain ⟨id, hid, h⟩ := Decode.exists_of_bind_eq_ok h
  obtain ⟨sku, hsku, h⟩ := Decode.exists_of_bind_eq_ok h
  obtain ⟨value, hvalue, htext⟩ := Decode.exists_of_required hsku
  iterate 7 obtain ⟨_, _, h⟩ := Decode.exists_of_bind_eq_ok h
  obtain rfl := Except.ok.inj h
  refine ⟨hid, ?_⟩
  rw [hvalue, Decode.eq_string_of_text htext]

theorem get?_sku_of_decode {entries : Entries} {item : Item}
    (h : decode (.object entries) = .ok item) :
    Entries.get? entries "sku" = some (.string item.sku) :=
  (slots_of_build (Decode.build_of_record h)).2

theorem id_of_decode {number : UInt64} {entries : Entries} {item : Item}
    (h : decode (.object (Entries.insert "id" (.number (.ofUInt64 number)) entries)) =
      .ok item) : item.id = number := by
  have hid := (slots_of_build (Decode.build_of_record h)).1
  rw [Entries.get?_insert, if_pos rfl] at hid
  exact (Except.ok.inj ((Decode.unsigned_ofUInt64 number).symm.trans hid)).symm

theorem get?_id_encode (item : Item) :
    item.encode.get? "id" = some (.number (.ofUInt64 item.id)) := by
  simp [encode, Json.ofEntries, Entries.sorted, Entries.overlay, entries, Json.get?,
    Entries.get?_insert]

theorem get?_sku_encode (item : Item) : item.encode.get? "sku" = some (.string item.sku) := by
  simp [encode, Json.ofEntries, Entries.sorted, Entries.overlay, entries, Json.get?,
    Entries.get?_insert]

/-- An item that is read with a number has it and is written with it. -/
theorem carriesNumber : Table.CarriesNumber Item "id" := by
  intro entries number item h
  have hid : item.id = number := id_of_decode h
  rw [← hid]
  exact item.get?_id_encode

end Catalog.Item

namespace Catalog

/-! ## A spare part -/

def sparePart (id : UInt64) (sku : String) : Item :=
  { id, sku, name := "spare part", price := .ofInt 5, stock := 0, active := false,
    createdAt := "", category := none, tags := [] }

/-- The payload of a spare part, which leaves out all that may be left out. -/
def sparePayload (sku : String) : Json :=
  .object [("name", .string "spare part"), ("price", .ofInt 5), ("sku", .string sku)]

end Catalog

end RecordQuery
