import RecordQuery.Proofs.Catalog.Item
import RecordQuery.Proofs.Json.Records
import RecordQuery.Proofs.Numeric.Rounding

/-!
# Items that are read back

An item that is written and read again is the same item, whatever number it is stamped with, as
long as its price is a number. The price of every item that has been read is one.
-/

namespace RecordQuery

/-- A number that is read is finite; integers of 64 bits are rounded to finite numbers. -/
theorem Decode.exists_finite_of_float {value : Json} {x : Binary64} (h : float value = .ok x) :
    ∃ y, x = .finite y := by
  unfold float at h
  split at h
  · rename_i n hlower hupper
    obtain ⟨y, hy, _⟩ := Binary64.ofInt_eq_finite (n := n) (by omega)
    exact ⟨y, (Except.ok.inj h).symm.trans hy⟩
  · exact ⟨_, (Except.ok.inj h).symm⟩
  · exact absurd h (by simp [mismatch])

namespace Catalog

theorem Tag.decode_encode (tag : Tag) : decode (encode tag) = .ok tag := rfl

theorem encode_top (id : UInt64) (name : String) :
    Lineage.encode categoryForm (.top id name) =
      .object [("id", .number (.ofUInt64 id)), ("name", .string name)] := by
  have hkeys : ["id", "name"].Pairwise (· < ·) := by decide
  exact congrArg Json.object (Entries.sorted_of_ascending (List.pairwise_map.mp hkeys))

theorem encode_under (id : UInt64) (name : String) (above : Category) :
    Lineage.encode categoryForm (.under id name above) =
      .object [("id", .number (.ofUInt64 id)), ("name", .string name),
        ("parent", Lineage.encode categoryForm above)] := by
  have hkeys : ["id", "name", "parent"].Pairwise (· < ·) := by decide
  exact congrArg Json.object (Entries.sorted_of_ascending (List.pairwise_map.mp hkeys))

theorem isNull_encode (category : Category) :
    (Lineage.encode categoryForm category).isNull = false := by
  cases category with
  | top id name => rw [encode_top]; rfl
  | under id name above => rw [encode_under]; rfl

/-- The draft of a category behind its number and its name. -/
theorem decodeEntries_named (id : UInt64) (name : String) (rest : Entries) :
    Lineage.decodeEntries categoryForm .empty
        (("id", .number (.ofUInt64 id)) :: ("name", .string name) :: rest) =
      Lineage.decodeEntries categoryForm ⟨some id, some name, none⟩ rest := by
  simp [Lineage.decodeEntries, Lineage.Draft.empty, Decode.unsigned_ofUInt64, Decode.text]

theorem decode_encode_category (category : Category) :
    Lineage.decode categoryForm (Lineage.encode categoryForm category) = .ok category := by
  induction category with
  | top id name =>
    rw [encode_top, Lineage.decode, decodeEntries_named, Lineage.decodeEntries]
    rfl
  | under id name above ih =>
    have hlink : "parent" = categoryForm.link := rfl
    rw [encode_under, Lineage.decode, decodeEntries_named, Lineage.decodeEntries]
    simp only [isNull_encode, ih, ← hlink]
    simp [Lineage.decodeEntries, Lineage.Draft.finish, Lineage.make]

theorem optional_category (category : Option Category) :
    Decode.optional (Lineage.decode categoryForm)
      (.ofOption (category.map (Lineage.encode categoryForm))) = .ok category := by
  cases category with
  | none => rfl
  | some category =>
    have hread := decode_encode_category category
    simp [Decode.optional, Json.ofOption, isNull_encode, hread, Except.map]

theorem list_tags (tags : List Tag) :
    Decode.list Tag.decode (.array (tags.map Tag.encode)) = .ok tags :=
  Decode.list_map fun tag _ => tag.decode_encode

namespace Item

theorem nodup_keys (item : Item) : (item.entries.map Prod.fst).Nodup := by
  change ["id", "sku", "name", "price", "stock", "active", "created_at", "category",
    "tags"].Nodup
  decide

/-- What stands under the names of the fields of an item with this number. -/
structure Slots (slot : String → Option Json) (number : UInt64) (item : Item) : Prop where
  id : slot "id" = some (.number (.ofUInt64 number))
  sku : slot "sku" = some (.string item.sku)
  name : slot "name" = some (.string item.name)
  price : slot "price" = some (.ofBinary64 item.price)
  stock : slot "stock" = some (.number (.ofInt64 item.stock))
  active : slot "active" = some (.bool item.active)
  createdAt : slot "created_at" = some (.string item.createdAt)
  category : slot "category" =
    some (.ofOption (item.category.map (Lineage.encode categoryForm)))
  tags : slot "tags" = some (.array (item.tags.map Tag.encode))

theorem slots_stamped (item : Item) (number : UInt64) :
    Slots (Entries.get? (Entries.insert "id" (.number (.ofUInt64 number)) item.entries.sorted))
      number item := by
  have hslot {key : String} {value : Json} (hne : key ≠ "id")
      (hmem : (key, value) ∈ item.entries) :
      Entries.get? (Entries.insert "id" (.number (.ofUInt64 number)) item.entries.sorted) key =
        some value :=
    (Entries.get?_insert _ _ _ _).trans
      ((if_neg hne).trans (Entries.get?_sorted_of_mem item.nodup_keys hmem))
  refine ⟨(Entries.get?_insert _ _ _ _).trans (if_pos rfl), ?_, ?_, ?_, ?_, ?_, ?_, ?_, ?_⟩ <;>
    exact hslot (by decide) (by simp [entries])

namespace Slots

variable {slot : String → Option Json} {number : UInt64} {item : Item} {x : Binary64.Finite}
variable (h : Slots slot number item) (hprice : item.price = .finite x)
include h hprice

theorem takes : ∀ form ∈ forms, form.Takes (slot form.name) := by
  have hcost : Decode.float (.ofBinary64 item.price) = .ok item.price := by
    rw [hprice]
    exact Decode.float_ofBinary64 x
  simp only [forms, List.forall_mem_cons]
  exact ⟨Decode.takes_defaulted h.id (Decode.unsigned_ofUInt64 number),
    Decode.takes_required h.sku rfl,
    Decode.takes_required h.name rfl,
    Decode.takes_required h.price hcost,
    Decode.takes_defaulted h.stock (Decode.signed_ofInt64 item.stock),
    Decode.takes_defaulted h.active rfl,
    Decode.takes_defaulted h.createdAt rfl,
    Decode.takes_defaulted h.category (optional_category item.category),
    Decode.takes_defaulted h.tags (list_tags item.tags),
    List.forall_mem_nil _⟩

theorem build : Item.build slot = .ok { item with id := number } := by
  simp only [Item.build, h.id, h.sku, h.name, h.price, h.stock, h.active, h.createdAt,
    h.category, h.tags, Decode.orElse, Decode.required, Decode.unsigned_ofUInt64,
    Decode.signed_ofInt64, optional_category, list_tags, hprice, Decode.float_ofBinary64]
  rfl

end Slots

/-- An item is read from what it was written as, with the number that it is stamped with. -/
theorem decode_stamped {item : Item} {x : Binary64.Finite} (hprice : item.price = .finite x)
    (number : UInt64) :
    decode (.object (Entries.insert "id" (.number (.ofUInt64 number)) item.entries.sorted)) =
      .ok { item with id := number } := by
  have hslots := item.slots_stamped number
  have hascending := (Entries.ascending_sorted item.entries).insert "id"
    (.number (.ofUInt64 number))
  rw [decode, Decode.record_of_takes hascending (hslots.takes hprice), hslots.build hprice]

/-! ## Prices -/

def Priced (item : Item) : Prop := ∃ x, item.price = .finite x

theorem priced_of_build {slot : String → Option Json} {item : Item} (h : build slot = .ok item) :
    item.Priced := by
  unfold build at h
  iterate 3 obtain ⟨_, _, h⟩ := Decode.exists_of_bind_eq_ok h
  obtain ⟨price, hprice, h⟩ := Decode.exists_of_bind_eq_ok h
  iterate 5 obtain ⟨_, _, h⟩ := Decode.exists_of_bind_eq_ok h
  obtain rfl := Except.ok.inj h
  obtain ⟨value, _, hread⟩ := Decode.exists_of_required hprice
  exact Decode.exists_finite_of_float hread

theorem priced_of_decode {entries : Entries} {item : Item}
    (h : decode (.object entries) = .ok item) : item.Priced :=
  priced_of_build (Decode.build_of_record h)

end Item

end Catalog

end RecordQuery
